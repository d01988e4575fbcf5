import WikiDoc.Document.Visitor
import WikiDoc.Validation.Options
import WikiDoc.Validation.Progress

/-!
Cross-references: every reference must have exactly one definition of its own sort in the tree.

A first walk counts the definitions by their normalized identifier, links and footnotes apart. A second
one looks up every reference and notes those whose count is not one.
-/

namespace WikiDoc

/-- The two sorts of references. -/
inductive ReferenceSort where
  | link
  | footnote
  deriving DecidableEq

/-- The number of definitions by sort and normalized identifier. -/
structure DefinitionIndex where
  matching : IdentifierMatching
  counts : OrderedMap (ReferenceSort × String) Nat := OrderedMap.empty

namespace DefinitionIndex

/-- The number of definitions that an identifier matches. -/
def count (index : DefinitionIndex) (sort : ReferenceSort) (identifier : String) : Nat :=
  (index.counts.get? (sort, index.matching.normalize identifier)).getD 0

/-- Counts one more definition. -/
def add (index : DefinitionIndex) (sort : ReferenceSort) (association : Association) :
    DefinitionIndex :=
  let key := (sort, index.matching.normalize association.identifier)
  { index with counts := index.counts.insert key (index.count sort association.identifier + 1) }

/-- The visitor that counts definitions. -/
def counter : Visitor DefinitionIndex Empty where
  definition association _ _ := Step.update (·.add .link association)
  footnoteDefinition association _ := Step.update (·.add .footnote association)

/-- The index of the definitions in a tree. -/
def ofTree (matching : IdentifierMatching) (tree : Node) : DefinitionIndex :=
  (counter.walk tree { matching }).1

/-- What is wrong with a reference, if anything. -/
def violation? (index : DefinitionIndex) (sort : ReferenceSort) (reference : Reference) :
    Option Violation :=
  match index.count sort reference.identifier with
  | 0 => some (.unresolved reference.identifier)
  | 1 => none
  | count => some (.ambiguous reference.identifier count)

variable {σ : Type}

/-- Notes what is wrong with a reference at a path. -/
def resolve (index : DefinitionIndex) (sort : ReferenceSort) (reference : Reference) (path : Path) :
    Step (Progress σ) Empty :=
  Step.update fun p =>
    match index.violation? sort reference with
    | some violation => p.push path violation
    | none => p

/-- The visitor that looks up references. -/
def resolver (index : DefinitionIndex) : Visitor (Progress σ) Empty where
  linkReference := index.resolve .link
  footnoteReference := index.resolve .footnote

end DefinitionIndex

/-- Notes the references of a tree without exactly one definition, in document order. -/
def Progress.checkReferences {σ : Type} (p : Progress σ) (matching : IdentifierMatching) (tree : Node) :
    Progress σ :=
  ((DefinitionIndex.ofTree matching tree).resolver.walk tree p).1

end WikiDoc
