import WikiDoc.Document.Node
import WikiDoc.Document.Path

/-!
Walking over a tree.

A visitor is a set of callbacks, each of which may change a state and may stop the walk with an error.
The walk goes over the tree in document order and calls `enter` for every node before the one callback
for its kind, if it has one, and its children after that. When a callback fails, the walk ends there:
nothing after it is called, and the state is the one that it left.

One path is carried along and kept up to date: it goes down to a child before the child is visited, and up
again afterwards, also when the visit failed.
-/

namespace WikiDoc

/-- A step of a walk: it gives the new state and, if it fails, an error. -/
abbrev Step (σ ε : Type) := σ → σ × Option ε

namespace Step

variable {σ ε : Type}

/-- The step that does nothing. -/
def skip : Step σ ε := fun state => (state, none)

/-- The step that applies a function to the state. -/
def update (f : σ → σ) : Step σ ε := fun state => (f state, none)

/-- Takes a second step after the first, unless that one failed. -/
def andThen (first second : Step σ ε) : Step σ ε := fun state =>
  match first state with
  | (state', none) => second state'
  | (state', some error) => (state', some error)

/-- The step that is told the path that is carried along, and leaves it as it is. -/
def atPath (step : Path → Step σ ε) : Step (Path × σ) ε := fun (path, state) =>
  let (state', failure) := step path state
  ((path, state'), failure)

/-- Takes a step at a child: the path goes down to it before the step and up again after it. -/
def atChild (index : Nat) (step : Step (Path × σ) ε) : Step (Path × σ) ε := fun (path, state) =>
  let ((path', state'), failure) := step (path.child index, state)
  ((path'.parent, state'), failure)

end Step

/-- The callbacks of a walk; each is told the path of the node. -/
structure Visitor (σ ε : Type) where
  /-- Called for every node. -/
  enter : Node → Path → Step σ ε := fun _ _ => Step.skip
  /-- Called for a link definition. -/
  definition : Association → Resource → Path → Step σ ε := fun _ _ _ => Step.skip
  /-- Called for a footnote definition. -/
  footnoteDefinition : Association → Path → Step σ ε := fun _ _ => Step.skip
  /-- Called for a link reference. -/
  linkReference : Reference → Path → Step σ ε := fun _ _ => Step.skip
  /-- Called for a footnote reference. -/
  footnoteReference : Reference → Path → Step σ ε := fun _ _ => Step.skip
  /-- Called for an image or a file, with its kind. -/
  media : String → Media → Path → Step σ ε := fun _ _ _ => Step.skip
  /-- Called for a node of an extension. -/
  custom : Custom → List Node → Path → Step σ ε := fun _ _ _ => Step.skip
  /-- Takes over a node: the step replaces all of its callbacks and the walk below it. -/
  takeOver : Node → Path → Option (Step σ ε) := fun _ _ => none

namespace Visitor

variable {σ ε : Type}

/-- The callback for the kind of a node; most kinds have none. -/
def callback (visitor : Visitor σ ε) (path : Path) : Node → Step σ ε
  | .leaf (.definition association resource) => visitor.definition association resource path
  | .leaf (.footnoteReference reference) => visitor.footnoteReference reference path
  | .leaf (.image media) => visitor.media "image" media path
  | .leaf (.file media) => visitor.media "file" media path
  | .parent (.footnoteDefinition association) _ => visitor.footnoteDefinition association path
  | .parent (.linkReference reference) _ => visitor.linkReference reference path
  | .custom info children => visitor.custom info children path
  | _ => Step.skip

/-- Visits a node, `below` being the walk over its children. -/
def around (visitor : Visitor σ ε) (node : Node) (below : Step (Path × σ) ε) : Step (Path × σ) ε :=
  fun (path, state) =>
    match visitor.takeOver node path with
    | some step => Step.atPath (fun _ => step) (path, state)
    | none =>
      Step.andThen (Step.atPath (visitor.enter node))
        (Step.andThen (Step.atPath fun path => visitor.callback path node) below) (path, state)

mutual

/-- Visits the node at the path that is carried along, and the tree below it. -/
def visit (visitor : Visitor σ ε) : Node → Step (Path × σ) ε
  | .parent tag children => visitor.around (.parent tag children) (visitor.visitForest children 0)
  | .custom info children => visitor.around (.custom info children) (visitor.visitForest children 0)
  | .literal tag value => visitor.around (.literal tag value) Step.skip
  | .leaf tag => visitor.around (.leaf tag) Step.skip

/-- Visits the children of a node, from the one at `index` on. -/
def visitForest (visitor : Visitor σ ε) : List Node → Nat → Step (Path × σ) ε
  | [], _ => Step.skip
  | node :: rest, index =>
    Step.andThen (Step.atChild index (visitor.visit node)) (visitor.visitForest rest (index + 1))

end

/-- Walks over a tree from its top. -/
def walk (visitor : Visitor σ ε) (tree : Node) : Step σ ε := fun state =>
  let ((_, state'), failure) := visitor.visit tree (Path.root, state)
  (state', failure)

end Visitor

/-- The number of nodes of a tree, counted by a walk. -/
def Node.count (tree : Node) : Nat :=
  let counter : Visitor Nat Empty := { enter := fun _ _ => Step.update (· + 1) }
  (counter.walk tree 0).1

end WikiDoc
