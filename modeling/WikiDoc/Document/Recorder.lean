import WikiDoc.Document.Visitor

/-!
Records of walks: a visitor that notes down every callback it gets.

A recorder can be told to pass over nodes of some kinds, noting only that they were pruned, and to stop
the walk at a certain event.
-/

namespace WikiDoc

/-- What happened at a node during a walk. -/
inductive WalkEvent where
  | enter (kind : String)
  | prune (kind : String)
  | definition (association : Association) (resource : Resource)
  | footnoteDefinition (association : Association)
  | linkReference (reference : Reference)
  | footnoteReference (reference : Reference)
  | media (kind url : String)
  | custom (kind : String)
  deriving DecidableEq

/-- The name of an event. -/
def WalkEvent.name : WalkEvent → String
  | .enter _ => "enter"
  | .prune _ => "prune"
  | .definition _ _ => "definition"
  | .footnoteDefinition _ => "footnoteDefinition"
  | .linkReference _ => "linkReference"
  | .footnoteReference _ => "footnoteReference"
  | .media _ _ => "media"
  | .custom _ => "custom"

/-- Where a recorded walk stops: at the event of a name that has `nth` events of that name before it. -/
structure StopAt where
  event : String
  nth : Nat

/-- The events so far, each with the path of its node. -/
abbrev WalkRecord := List (WalkEvent × Path)

/-- Whether a recorded walk stops at an event, given the record before it. -/
def StopAt.reached (stop : StopAt) (before : WalkRecord) (event : WalkEvent) : Bool :=
  event.name == stop.event && before.countP (·.1.name == stop.event) == stop.nth

/-- Notes an event and stops with its path if the walk has come to its end. -/
def note (stop : Option StopAt) (event : WalkEvent) (path : Path) : Step WalkRecord Path :=
  fun before =>
    (before ++ [(event, path)], if stop.any (·.reached before event) then some path else none)

/-- The visitor that records a walk, passing over the kinds in `prune`. -/
def recorder (prune : List String) (stop : Option StopAt) : Visitor WalkRecord Path where
  enter node path := note stop (.enter node.kind) path
  definition association resource path := note stop (.definition association resource) path
  footnoteDefinition association path := note stop (.footnoteDefinition association) path
  linkReference reference path := note stop (.linkReference reference) path
  footnoteReference reference path := note stop (.footnoteReference reference) path
  media kind media path := note stop (.media kind media.resource.url) path
  custom info _ path := note stop (.custom info.kind) path
  takeOver node path :=
    if node.kind ∈ prune then some (note stop (.prune node.kind) path) else none

/-- Records the walk over a tree whose top node has the given path: the path that is left in the end, the
events, and where the walk stopped. -/
def recordWalk (prune : List String) (stop : Option StopAt) (tree : Node) (start : Path) :
    (Path × WalkRecord) × Option Path :=
  (recorder prune stop).visit tree (start, [])

end WikiDoc
