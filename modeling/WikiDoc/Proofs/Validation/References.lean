import WikiDoc.Proofs.Document.Walk
import WikiDoc.Validation.CrossReference

/-!
The findings about references, site by site.

The second walk over a tree notes what is wrong with the reference at each site, if there is one, so it
notes the findings of the single sites in document order (`checkReferences_eq`).
-/

namespace WikiDoc

/-- Whether a violation is about a reference. -/
def Violation.isReference : Violation → Bool
  | .unresolved _ | .ambiguous _ _ => true
  | .misplaced _ _ | .shape _ _ | .badAttribute _ => false

/-- Notes findings one after the other. -/
def Progress.pushAll {σ : Type} (p : Progress σ) (findings : List Finding) : Progress σ :=
  findings.foldl (fun p finding => p.push finding.path finding.violation) p

namespace DefinitionIndex

/-- The reference of a node, with its sort. -/
def reference? : Node → Option (ReferenceSort × Reference)
  | .parent (.linkReference reference) _ => some (.link, reference)
  | .leaf (.footnoteReference reference) => some (.footnote, reference)
  | _ => none

/-- What is wrong with the reference at a site. -/
def findingAt? (index : DefinitionIndex) (s : Site) : Option Finding :=
  (reference? s.node).bind fun (sort, reference) =>
    (index.violation? sort reference).map fun violation => ⟨s.path, violation⟩

variable {σ : Type}

theorem resolver_callback (index : DefinitionIndex) (path : Path) (node : Node) :
    (index.resolver : Visitor (Progress σ) Empty).callback path node = match reference? node with
      | some (sort, reference) => index.resolve sort reference path
      | none => Step.skip := by
  cases node with
  | parent tag children => cases tag <;> rfl
  | literal tag value => rfl
  | leaf tag => cases tag <;> rfl
  | custom info children => rfl

/-- The second walk notes at each site what is wrong with its reference. -/
theorem resolver_stepAt (index : DefinitionIndex) (s : Site) :
    (index.resolver : Visitor (Progress σ) Empty).stepAt s =
      Step.update (·.pushAll (index.findingAt? s).toList) := by
  have henter : (index.resolver : Visitor (Progress σ) Empty).enter s.node s.path = Step.skip := rfl
  rw [Visitor.stepAt, henter, Step.skip_andThen, resolver_callback, findingAt?]
  cases reference? s.node with
  | none => rfl
  | some found =>
    simp only [resolve, Option.bind_some]
    cases index.violation? found.1 found.2 <;> rfl

end DefinitionIndex

/-- The references of a tree without exactly one definition, in document order. -/
def referenceFindings (matching : IdentifierMatching) (tree : Node) : List Finding :=
  tree.sites.flatMap fun s => ((DefinitionIndex.ofTree matching tree).findingAt? s).toList

/-- What is noted about references is the findings of the single sites, in document order. -/
theorem checkReferences_eq {σ : Type} (p : Progress σ) (matching : IdentifierMatching) (tree : Node) :
    p.checkReferences matching tree = p.pushAll (referenceFindings matching tree) := by
  let noteAt (p : Progress σ) (s : Site) :=
    p.pushAll ((DefinitionIndex.ofTree matching tree).findingAt? s).toList
  have hsteps : (DefinitionIndex.ofTree matching tree).resolver.stepAt = fun s =>
      (Step.update (noteAt · s) : Step (Progress σ) Empty) :=
    funext (DefinitionIndex.resolver_stepAt _)
  rw [Progress.checkReferences, Visitor.walk_eq _ (fun _ _ => rfl), hsteps, Step.sequence_update noteAt]
  exact List.foldl_flatMap.symm

theorem isReference_of_mem_referenceFindings {matching : IdentifierMatching} {tree : Node}
    {f : Finding} (hf : f ∈ referenceFindings matching tree) : f.violation.isReference := by
  obtain ⟨s, _, hf⟩ := List.mem_flatMap.1 hf
  rw [Option.mem_toList, DefinitionIndex.findingAt?, Option.bind_eq_some_iff] at hf
  obtain ⟨⟨sort, reference⟩, _, hf⟩ := hf
  obtain ⟨violation, hv, rfl⟩ := Option.map_eq_some_iff.1 hf
  unfold DefinitionIndex.violation? at hv
  split at hv
  · cases hv; rfl
  · cases hv
  · cases hv; rfl

end WikiDoc
