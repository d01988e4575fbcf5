import WikiDoc.Kind.Baseline
import WikiDoc.Registry.Lookup

/-!
Additions to a registry as data, and the baseline registry as what a list of them leads to.
-/

namespace WikiDoc

/-- An addition to a registry. -/
inductive Mutation where
  | defineCategory (category : Category) (includes : List Category)
  | register (category : Category) (kind : String)
  | define (definition : KindDef)

namespace Mutation

/-- Makes the addition. -/
def apply (r : Registry) : Mutation → Outcome Unit
  | .defineCategory category includes => r.defineCategory category includes
  | .register category kind =>
    (r.register category kind).andThen fun _ r' => ⟨.ok (), r', []⟩
  | .define definition => r.define definition

/-- Makes additions one after the other, up to the first that fails. -/
def applyAll (r : Registry) : List Mutation → Outcome Unit
  | [] => ⟨.ok (), r, []⟩
  | mutation :: rest => (mutation.apply r).andThen fun _ r' => applyAll r' rest

end Mutation

/-- The categories that come with the library, and the categories that each includes. -/
def Baseline.categories : List (Category × List Category) :=
  open Category in
  [(block, []), (definition, []), (staticPhrasing, []), (list, []), (table, []), (row, []),
    (gallery, []), (phrasing, [staticPhrasing]), (flow, [block, definition])]

/-- The additions that make up the baseline: the categories, then the kinds. -/
def Baseline.mutations : List Mutation :=
  categories.map (fun entry => .defineCategory entry.1 entry.2) ++ kinds.map .define

namespace Registry

/-- Builds the baseline registry and checks it. -/
def loadBaseline : Outcome Unit :=
  (Mutation.applyAll empty Baseline.mutations).andThen fun _ r =>
    ⟨r.check, r, (Lookup.check r).log⟩

/-- The registry of the categories and kinds that come with the library. -/
def baseline : Registry := loadBaseline.registry

end Registry

end WikiDoc
