import WikiDoc.Document.Visitor
import WikiDoc.Registry.Membership
import WikiDoc.Validation.Options
import WikiDoc.Validation.Progress

/-!
Validation of a tree, node by node.

The tree is gone through in document order. A node of a defined kind is checked against the shape and
the rules of its definition, and each of its children must belong to the category that the definition
asks for. A kind without a definition is never a legal child, even as a member of the category; what
is below such a node is still gone through. The top node is not checked against any category.

All checks share one path, which goes down to a child and up again, and note what they find in one
progress.
-/

namespace WikiDoc

/-- A registry to validate against, and options. -/
structure Validator where
  registry : Registry
  options : ValidatorOptions := {}

namespace Validator

variable {σ : Type}

/-- Checks a node against the definition of its kind: its shape, then its attributes. -/
def checkOwn (v : Validator) (d : KindDef) (node : Node) (path : Path) (p : Progress σ) : Progress σ :=
  let shaped :=
    if node.observedShape = d.shape then p else p.push path (.shape d.shape node.observedShape)
  if v.options.checkAttributes then
    (d.problems node.attributes).foldl (fun p problem => p.push path (.badAttribute problem)) shaped
  else shaped

/-- Checks a node by itself; a kind without a definition is warned of. -/
def checkNode (v : Validator) (node : Node) (path : Path) : Step (Progress σ) RegistryError :=
  Step.update fun p =>
    match v.registry.kind? node.kind with
    | some d => v.checkOwn d node path p
    | none =>
      p.logged [⟨.warn, "no definition for node kind `" ++ node.kind ++ "` at " ++ path.display⟩]

/-- The category that the children of a node of the kind must belong to, if any. -/
def content? (v : Validator) (kind : String) : Option Category :=
  (v.registry.kind? kind).bind KindDef.content

/-- Checks a child of a kind against the category that its parent asks for: it must be a member that
has a definition. The lookup logs its own failure. -/
def checkSlot (v : Validator) (expected : Option Category) (kind : String) (path : Path) :
    Step (Progress σ) RegistryError := fun p =>
  match expected with
  | none => (p, none)
  | some category =>
    match Lookup.contains v.registry category kind with
    | ⟨.error error, log⟩ => (p.logged log, some error)
    | ⟨.ok isMember, log⟩ =>
      if isMember && (v.registry.kind? kind).isSome then (p.logged log, none)
      else ((p.logged log).push path (.misplaced category kind), none)

mutual

/-- Checks the tree at the path that is carried along. -/
def checkTree (v : Validator) : Node → Step (Path × Progress σ) RegistryError
  | .parent tag children =>
    Step.andThen (Step.atPath (v.checkNode (.parent tag children)))
      (v.checkForest (v.content? tag.kind) children 0)
  | .custom info children =>
    Step.andThen (Step.atPath (v.checkNode (.custom info children)))
      (v.checkForest (v.content? info.kind) children 0)
  | .literal tag value => Step.atPath (v.checkNode (.literal tag value))
  | .leaf tag => Step.atPath (v.checkNode (.leaf tag))

/-- Checks the children of a node, from the one at `index` on, each against the expected category before
anything else. -/
def checkForest (v : Validator) (expected : Option Category) :
    List Node → Nat → Step (Path × Progress σ) RegistryError
  | [], _ => Step.skip
  | node :: rest, index =>
    Step.andThen
      (Step.atChild index
        (Step.andThen (Step.atPath (v.checkSlot expected node.kind)) (v.checkTree node)))
      (v.checkForest expected rest (index + 1))

end

end Validator

end WikiDoc
