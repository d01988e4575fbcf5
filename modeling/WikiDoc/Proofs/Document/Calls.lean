import Mathlib.Data.List.Basic
import WikiDoc.Document.Recorder
import WikiDoc.Kind.Extension
import WikiDoc.Proofs.Document.Walk

/-!
Walks as flat lists of calls.

The calls for a tree can be listed without a visitor: in document order, every node is entered and then
handed to the callback for its kind, if there is one (`calls`). A walk makes these calls in this order
(`walk_eq_sequence`). It makes all of them, or those up to the first that fails, and the error of that
one is the error of the walk (`Step.sequence_cases`).
-/

namespace WikiDoc

/-! ### Sequences of steps -/

namespace Step

variable {σ ε β : Type}

/-- The items are acted on one after the other, from one state to another, and no action fails. -/
inductive Completes (act : β → Step σ ε) : List β → σ → σ → Prop
  | nil (state : σ) : Completes act [] state state
  | cons {item : β} {items : List β} {state next final : σ} (first : act item state = (next, none))
      (rest : Completes act items next final) : Completes act (item :: items) state final

/-- A sequence of steps completes, or it ends at the first step that fails, with the error of that step
and the state that it left. -/
theorem sequence_cases (act : β → Step σ ε) (items : List β) (state : σ) :
    (∃ final, Completes act items state final ∧ sequence (items.map act) state = (final, none)) ∨
      ∃ done failing rest before final error, items = done ++ failing :: rest ∧
        Completes act done state before ∧ act failing before = (final, some error) ∧
        sequence (items.map act) state = (final, some error) := by
  induction items generalizing state with
  | nil => exact Or.inl ⟨state, .nil state, rfl⟩
  | cons item items ih =>
    rw [List.map_cons, sequence_cons, andThen]
    rcases hfirst : act item state with ⟨next, _ | error⟩
    · simp only
      rcases ih next with ⟨final, hrest, hrun⟩ | ⟨done, failing, rest, before, final, error, hitems, hdone,
        hfails, hrun⟩
      · exact Or.inl ⟨final, .cons hfirst hrest, hrun⟩
      · refine Or.inr ⟨item :: done, failing, rest, before, final, error, ?_, .cons hfirst hdone, hfails,
          hrun⟩
        rw [hitems, List.cons_append]
    · exact Or.inr ⟨[], item, items, state, next, error, rfl, .nil state, hfirst, rfl⟩

/-- A sequence of sequences is one sequence. -/
theorem sequence_flatMap (f : β → List (Step σ ε)) (items : List β) :
    sequence (items.flatMap f) = sequence (items.map fun item => sequence (f item)) := by
  induction items with
  | nil => rfl
  | cons item items ih => rw [List.flatMap_cons, sequence_concat, List.map_cons, sequence_cons, ih]

end Step

/-! ### The calls for a tree -/

/-- The callbacks of a visitor, each with what it is told besides the path. -/
inductive Callback where
  | enter (node : Node)
  | definition (association : Association) (resource : Resource)
  | footnoteDefinition (association : Association)
  | linkReference (reference : Reference)
  | footnoteReference (reference : Reference)
  | media (kind : String) (media : Media)
  | custom (info : Custom) (children : List Node)

/-- The callback for the kind of a node, if there is one. -/
def Node.callback? : Node → Option Callback
  | .leaf (.definition association resource) => some (.definition association resource)
  | .leaf (.footnoteReference reference) => some (.footnoteReference reference)
  | .leaf (.image media) => some (.media "image" media)
  | .leaf (.file media) => some (.media "file" media)
  | .parent (.footnoteDefinition association) _ => some (.footnoteDefinition association)
  | .parent (.linkReference reference) _ => some (.linkReference reference)
  | .custom info children => some (.custom info children)
  | _ => none

/-- A call: a callback for the node at a path. -/
structure Call where
  path : Path
  callback : Callback

/-- The path of the node that is entered, if the call enters one. -/
def Call.entered? : Call → Option Path
  | ⟨path, .enter _⟩ => some path
  | _ => none

/-- The calls for a node at a path: it is entered, and then there is at most one call for its kind. -/
def Node.ownCalls (node : Node) (path : Path) : List Call :=
  ⟨path, .enter node⟩ :: (node.callback?.map (Call.mk path)).toList

/-- The calls for a tree, in document order. -/
def Node.calls (tree : Node) : List Call :=
  tree.paths.flatMap fun path => (tree.at? path).elim [] fun node => node.ownCalls path

theorem Node.calls_eq (tree : Node) : tree.calls = tree.sites.flatMap fun s => s.node.ownCalls s.path := by
  rw [calls, paths, List.flatMap_map]
  apply List.flatMap_congr
  intro s hs
  rw [((mem_sites tree s).1 hs).1, Option.elim_some]

theorem Node.callback?_ne_enter {node other : Node} (h : node.callback? = some (.enter other)) : False := by
  unfold callback? at h
  split at h <;> cases h

/-- The calls for a node enter it and no other. -/
theorem Node.mem_ownCalls_enter {node other : Node} {path path' : Path} :
    ⟨path', .enter other⟩ ∈ node.ownCalls path ↔ path' = path ∧ other = node := by
  rw [ownCalls, List.mem_cons, Option.mem_toList, Option.map_eq_some_iff]
  constructor
  · rintro (heq | ⟨callback, hkind, heq⟩)
    · cases heq
      exact ⟨rfl, rfl⟩
    · cases heq
      exact (Node.callback?_ne_enter hkind).elim
  · rintro ⟨rfl, rfl⟩
    exact Or.inl rfl

/-- A node is entered at a path exactly when the path leads to it. -/
theorem Node.enter_mem_calls {tree node : Node} {path : Path} :
    ⟨path, .enter node⟩ ∈ tree.calls ↔ tree.at? path = some node := by
  rw [calls_eq, List.mem_flatMap]
  constructor
  · rintro ⟨s, hs, hcall⟩
    obtain ⟨rfl, rfl⟩ := mem_ownCalls_enter.1 hcall
    exact ((mem_sites tree s).1 hs).1
  · intro hnode
    exact ⟨⟨path, node, tree.above? path⟩, (mem_sites tree _).2 ⟨hnode, rfl⟩, List.mem_cons_self⟩

theorem Node.entered?_ownCalls (node : Node) (path : Path) :
    (node.ownCalls path).filterMap Call.entered? = [path] := by
  rw [ownCalls, List.filterMap_cons]
  cases hkind : node.callback? with
  | none => rfl
  | some callback =>
    cases callback with
    | enter other => exact (Node.callback?_ne_enter hkind).elim
    | _ => rfl

/-- The paths that are entered are those of the tree, each once and in document order. -/
theorem Node.entered?_calls (tree : Node) : tree.calls.filterMap Call.entered? = tree.paths := by
  rw [calls_eq, List.filterMap_flatMap, paths, ← List.flatMap_singleton' (tree.sites.map Site.path),
    List.flatMap_map]
  exact List.flatMap_congr fun s _ => entered?_ownCalls s.node s.path

/-! ### Walks make them -/

namespace Visitor

variable {σ ε : Type} (visitor : Visitor σ ε)

/-- Makes a call. -/
def make : Call → Step σ ε
  | ⟨path, .enter node⟩ => visitor.enter node path
  | ⟨path, .definition association resource⟩ => visitor.definition association resource path
  | ⟨path, .footnoteDefinition association⟩ => visitor.footnoteDefinition association path
  | ⟨path, .linkReference reference⟩ => visitor.linkReference reference path
  | ⟨path, .footnoteReference reference⟩ => visitor.footnoteReference reference path
  | ⟨path, .media kind media⟩ => visitor.media kind media path
  | ⟨path, .custom info children⟩ => visitor.custom info children path

theorem callback_eq (path : Path) (node : Node) : visitor.callback path node =
    node.callback?.elim Step.skip fun callback => visitor.make ⟨path, callback⟩ := by
  cases node with
  | parent tag children => cases tag <;> rfl
  | literal tag value => rfl
  | leaf tag => cases tag <;> rfl
  | custom info children => rfl

/-- The step at a site makes the calls for its node. -/
theorem stepAt_eq (s : Site) :
    visitor.stepAt s = Step.sequence ((s.node.ownCalls s.path).map visitor.make) := by
  rw [stepAt, callback_eq, Node.ownCalls, List.map_cons, Step.sequence_cons]
  cases s.node.callback? with
  | none => rfl
  | some callback =>
    have hlast : Step.sequence [visitor.make ⟨s.path, callback⟩] = visitor.make ⟨s.path, callback⟩ :=
      Step.andThen_skip _
    exact congrArg (Step.andThen _) hlast.symm

/-- A walk makes the calls for the tree, one after the other. -/
theorem walk_eq_sequence (htake : ∀ node path, visitor.takeOver node path = none) (tree : Node) :
    visitor.walk tree = Step.sequence (tree.calls.map visitor.make) := by
  have hsteps : visitor.stepAt = fun s => Step.sequence ((s.node.ownCalls s.path).map visitor.make) :=
    funext visitor.stepAt_eq
  rw [visitor.walk_eq htake, hsteps, Node.calls_eq, List.map_flatMap, Step.sequence_flatMap]

end Visitor

/-- A visitor that takes over no node walks along the calls for the tree. These enter every node of the
tree once, at the path that leads to it, and in the order of paths. The walk makes all of the calls and
ends without an error; or it stops right after the first one that fails, in the state that this one
left, and with its error. -/
theorem walk_makes_calls {σ ε : Type} (visitor : Visitor σ ε)
    (htake : ∀ node path, visitor.takeOver node path = none) (tree : Node) (state : σ) :
    (∀ path node, ⟨path, .enter node⟩ ∈ tree.calls ↔ tree.at? path = some node) ∧
    tree.calls.filterMap Call.entered? = tree.paths ∧
    tree.paths.Pairwise (fun p q => compare p q = .lt) ∧
    ((∃ final, Step.Completes visitor.make tree.calls state final ∧
        visitor.walk tree state = (final, none)) ∨
      ∃ made failing rest before final error, tree.calls = made ++ failing :: rest ∧
        Step.Completes visitor.make made state before ∧
        visitor.make failing before = (final, some error) ∧
        visitor.walk tree state = (final, some error)) := by
  refine ⟨fun path node => Node.enter_mem_calls, tree.entered?_calls, tree.paths_increasing, ?_⟩
  rw [visitor.walk_eq_sequence htake]
  exact Step.sequence_cases visitor.make tree.calls state

/-- The walk of a recorder that stops at the second node of an extension, below a footnote definition. -/
theorem walk_makes_calls_recorder :
    let stop : StopAt := ⟨"custom", 1⟩
    let note : Node := .parent (.footnoteDefinition ⟨"a", none⟩) [Extension.poem [Extension.marquee]]
    let tree : Node := .parent .root [.parent (.gallery OrderedMap.empty)
      [.leaf (.image { resource := { url := "u" } })], note, .leaf (.definition ⟨"b", none⟩ ⟨"v", none⟩)]
    let visitor := recorder [] (some stop)
    (∀ node path, visitor.takeOver node path = none) ∧
      visitor.walk tree [] = ([(.enter "root", ⟨[]⟩), (.enter "gallery", ⟨[0]⟩),
        (.enter "image", ⟨[0, 0]⟩), (.media "image" "u", ⟨[0, 0]⟩), (.enter "footnoteDefinition", ⟨[1]⟩),
        (.footnoteDefinition ⟨"a", none⟩, ⟨[1]⟩), (.enter "poem", ⟨[1, 0]⟩), (.custom "poem", ⟨[1, 0]⟩),
        (.enter "marquee", ⟨[1, 0, 0]⟩), (.custom "marquee", ⟨[1, 0, 0]⟩)], some ⟨[1, 0, 0]⟩) ∧
      (∀ path node, ⟨path, .enter node⟩ ∈ tree.calls ↔ tree.at? path = some node) ∧
      tree.calls.filterMap Call.entered? = tree.paths ∧
      tree.paths.Pairwise (fun p q => compare p q = .lt) ∧
      ((∃ final, Step.Completes visitor.make tree.calls [] final ∧
          visitor.walk tree [] = (final, none)) ∨
        ∃ made failing rest before final error, tree.calls = made ++ failing :: rest ∧
          Step.Completes visitor.make made [] before ∧
          visitor.make failing before = (final, some error) ∧
          visitor.walk tree [] = (final, some error)) := by
  intro stop note tree visitor
  have htake : ∀ node path, visitor.takeOver node path = none := fun _ _ => rfl
  exact ⟨htake, by decide +kernel, walk_makes_calls visitor htake tree []⟩

end WikiDoc
