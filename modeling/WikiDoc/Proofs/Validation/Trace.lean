import WikiDoc.Proofs.Registry.Lookup
import WikiDoc.Proofs.Validation.References
import WikiDoc.Validation.Run

/-!
Traces: what a validation comes upon, in order.

The checks of a validation share one path and one progress. What a check notes there is a trace that
follows from the registry, the node and its path alone, and the check fails with the fault that ends the
trace (`replay`). One check after another notes one trace after another (`andThen_replay`), so the check of a
tree replays the trace of the tree, from whatever path and progress it starts (`checkTree_eq_replay`), and
the report, the sink and the log of a run can be read off a single trace (`run_eq_trace`).
-/

namespace WikiDoc

/-- What a validation comes upon at a node. -/
inductive Event where
  /-- The kind of the node has no definition. -/
  | undefinedKind (kind : String) (path : Path)
  | found (finding : Finding)
  deriving DecidableEq

namespace Event

/-- The record of an event. -/
def record : Event → LogRecord
  | .undefinedKind kind path =>
    ⟨.warn, "no definition for node kind `" ++ kind ++ "` at " ++ path.display⟩
  | .found finding => ⟨.trace, "finding " ++ finding.display⟩

/-- The finding of an event, if it is one. -/
def finding? : Event → Option Finding
  | .found finding => some finding
  | .undefinedKind _ _ => none

end Event

/-- The events of a validation, and the fault that ended it if there is one. -/
structure Trace where
  events : List Event := []
  fault : Option RegistryError := none
  deriving DecidableEq

namespace Trace

/-- The trace of a validation that comes upon nothing. -/
def empty : Trace := {}

/-- The trace of a single event. -/
def single (event : Event) : Trace := { events := [event] }

/-- The trace of some findings. -/
def ofFindings (findings : List Finding) : Trace := { events := findings.map .found }

/-- The trace of violations at one node. -/
def violations (path : Path) (found : List Violation) : Trace :=
  ofFindings (found.map fun violation => ⟨path, violation⟩)

/-- The trace of a validation that a fault ends. -/
def ofFault (error : RegistryError) : Trace := { fault := some error }

/-- One trace after another, unless the first ends in a fault. -/
def append (first second : Trace) : Trace :=
  match first.fault with
  | none => { events := first.events ++ second.events, fault := second.fault }
  | some _ => first

instance : Append Trace := ⟨append⟩

/-- The findings of a trace. -/
def findings (trace : Trace) : List Finding := trace.events.filterMap Event.finding?

/-- The records of a trace. -/
def log (trace : Trace) : List LogRecord :=
  trace.events.map Event.record ++ trace.fault.toList.map RegistryError.record

theorem append_of_fault_none {a : Trace} (h : a.fault = none) (b : Trace) :
    a ++ b = { events := a.events ++ b.events, fault := b.fault } := by
  change a.append b = _
  rw [append, h]

theorem append_of_fault_some {a : Trace} {error : RegistryError} (h : a.fault = some error) (b : Trace) :
    a ++ b = a := by
  change a.append b = _
  rw [append, h]

theorem append_empty (trace : Trace) : trace ++ Trace.empty = trace := by
  obtain ⟨events, _ | error⟩ := trace
  · rw [append_of_fault_none rfl, empty, List.append_nil]
  · rw [append_of_fault_some rfl]

theorem findings_ofFindings (findings : List Finding) : (ofFindings findings).findings = findings := by
  rw [Trace.findings, ofFindings, List.filterMap_map]
  exact List.filterMap_some

end Trace

/-! ### Replaying a trace -/

/-- A validation that has come upon all of a trace. -/
def Progress.follow {σ : Type} (p : Progress σ) (trace : Trace) : Progress σ :=
  { p with
    findings := p.findings ++ trace.findings
    state := trace.findings.foldl p.sink.emit p.state
    log := p.log ++ trace.log }

/-- The step that notes all of a trace, and fails if a fault ends it. -/
def Trace.replay {σ : Type} (trace : Trace) : Step (Progress σ) RegistryError :=
  fun p => (p.follow trace, trace.fault)

section Replay

variable {σ : Type}

theorem Progress.follow_empty (p : Progress σ) : p.follow .empty = p := by
  simp [follow, Trace.empty, Trace.findings, Trace.log]

theorem Progress.follow_append (p : Progress σ) {a : Trace} (h : a.fault = none) (b : Trace) :
    (p.follow a).follow b = p.follow (a ++ b) := by
  simp [follow, Trace.append_of_fault_none h, Trace.findings, Trace.log, h]

/-- A trace without findings is only logged. -/
theorem Progress.follow_eq_logged (p : Progress σ) {trace : Trace} (h : trace.findings = []) :
    p.follow trace = p.logged trace.log := by
  rw [follow, h, List.append_nil]
  rfl

theorem Trace.replay_empty : (Trace.empty.replay : Step (Progress σ) RegistryError) = Step.skip := by
  funext p
  rw [replay, p.follow_empty]
  rfl

/-- One trace is replayed after another, unless a fault ended the first. -/
theorem Trace.andThen_replay (a b : Trace) :
    Step.andThen a.replay b.replay = ((a ++ b).replay : Step (Progress σ) RegistryError) := by
  funext p
  simp only [Step.andThen, replay]
  cases h : a.fault with
  | none =>
    simp only [p.follow_append h]
    rw [append_of_fault_none h]
  | some error => rw [append_of_fault_some h, h]

theorem Progress.pushAll_append (p : Progress σ) (a b : List Finding) :
    p.pushAll (a ++ b) = (p.pushAll a).pushAll b := List.foldl_append

/-- Findings that are noted one after the other reach the log, the sink and the report in that order. -/
theorem Progress.pushAll_eq (p : Progress σ) (findings : List Finding) :
    p.pushAll findings = p.follow (.ofFindings findings) := by
  induction findings generalizing p with
  | nil => exact p.follow_empty.symm
  | cons f rest ih =>
    have hpush : p.push f.path f.violation = p.follow (.ofFindings [f]) := rfl
    have hcons : Trace.ofFindings (f :: rest) = .ofFindings [f] ++ .ofFindings rest := rfl
    rw [hcons, ← p.follow_append rfl, ← hpush]
    exact ih _

end Replay

/-! ### The trace of a tree -/

namespace Validator

/-- The violations of a node against the definition of its kind: its shape, then its attributes. -/
def ownViolations (v : Validator) (d : KindDef) (node : Node) : List Violation :=
  (if node.observedShape = d.shape then [] else [.shape d.shape node.observedShape]) ++
    if v.options.checkAttributes then (d.problems node.attributes).map .badAttribute else []

/-- What a validation comes upon at a node itself. -/
def atNode (v : Validator) (node : Node) (path : Path) : Trace :=
  match v.registry.kind? node.kind with
  | some d => .violations path (v.ownViolations d node)
  | none => .single (.undefinedKind node.kind path)

/-- Whether nodes of a kind are legal in a category: members of it that have a definition. -/
def isLegal (v : Validator) (category : Category) (kind : String) : Except RegistryError Bool :=
  (v.registry.contains category kind).map (· && (v.registry.kind? kind).isSome)

/-- What a validation comes upon where a child is checked against a category. -/
def atSlot (v : Validator) (expected : Option Category) (kind : String) (path : Path) : Trace :=
  match expected with
  | none => .empty
  | some category =>
    match v.isLegal category kind with
    | .error error => .ofFault error
    | .ok true => .empty
    | .ok false => .violations path [.misplaced category kind]

mutual

/-- What a validation comes upon in the tree at a path. -/
def traceTree (v : Validator) : Node → Path → Trace
  | .parent tag children, path =>
    v.atNode (.parent tag children) path ++ v.traceForest (v.content? tag.kind) children path 0
  | .custom info children, path =>
    v.atNode (.custom info children) path ++ v.traceForest (v.content? info.kind) children path 0
  | .literal tag value, path => v.atNode (.literal tag value) path
  | .leaf tag, path => v.atNode (.leaf tag) path

/-- What a validation comes upon in the children of the node at a path, from the one at `index` on. -/
def traceForest (v : Validator) (expected : Option Category) : List Node → Path → Nat → Trace
  | [], _, _ => .empty
  | node :: rest, path, index =>
    v.atSlot expected node.kind (path.child index) ++
      (v.traceTree node (path.child index) ++ v.traceForest expected rest path (index + 1))

end

/-- What a whole validation comes upon: the nodes, then the references. -/
def trace (v : Validator) (tree : Node) : Trace :=
  v.traceTree tree Path.root ++
    if v.options.checkReferences then
      .ofFindings (referenceFindings v.options.identifierMatching tree)
    else .empty

variable {v : Validator} {σ : Type}

/-- The trace of a tree is that of its top node and then that of the children. -/
theorem traceTree_eq (node : Node) (path : Path) : v.traceTree node path =
    v.atNode node path ++ v.traceForest (v.content? node.kind) node.children path 0 := by
  cases node with
  | parent tag children => rw [traceTree]; rfl
  | custom info children => rw [traceTree]; rfl
  | literal tag value => rw [traceTree, Node.children, traceForest, Trace.append_empty]
  | leaf tag => rw [traceTree, Node.children, traceForest, Trace.append_empty]

/-! ### The checks replay it -/

/-- The violations of a node against its definition are noted one by one. -/
theorem checkOwn_eq (d : KindDef) (node : Node) (path : Path) (p : Progress σ) :
    v.checkOwn d node path p =
      p.pushAll ((v.ownViolations d node).map fun violation => ⟨path, violation⟩) := by
  have hshape : (if node.observedShape = d.shape then p
      else p.push path (.shape d.shape node.observedShape)) =
        p.pushAll ((if node.observedShape = d.shape then []
          else [.shape d.shape node.observedShape]).map fun violation => ⟨path, violation⟩) := by
    split <;> rfl
  have hrules : ∀ p : Progress σ, (d.problems node.attributes).foldl
      (fun p problem => p.push path (.badAttribute problem)) p = p.pushAll
        (((d.problems node.attributes).map .badAttribute).map fun violation => ⟨path, violation⟩) := by
    intro p
    rw [Progress.pushAll, List.foldl_map, List.foldl_map]
  rw [checkOwn, ownViolations, List.map_append, Progress.pushAll_append, ← hshape]
  cases v.options.checkAttributes with
  | false => rfl
  | true => exact hrules _

theorem checkNode_eq_replay (node : Node) (path : Path) :
    (v.checkNode node path : Step (Progress σ) RegistryError) = (v.atNode node path).replay := by
  funext p
  rw [checkNode, atNode, Step.update]
  cases v.registry.kind? node.kind with
  | none =>
    rw [Trace.replay, p.follow_eq_logged rfl]
    rfl
  | some d =>
    simp only
    rw [checkOwn_eq, Progress.pushAll_eq]
    rfl

/-- The search for a child in its category logs its failure and ends the check, or logs nothing. -/
theorem checkSlot_eq_replay (expected : Option Category) (kind : String) (path : Path) :
    (v.checkSlot expected kind path : Step (Progress σ) RegistryError) =
      (v.atSlot expected kind path).replay := by
  funext p
  cases expected with
  | none => exact congrFun Trace.replay_empty.symm p
  | some category =>
    have hlogs : (Lookup.contains v.registry category kind).LogsFailure :=
      Lookup.logsFailure_findMember kind [] [category]
    have hmember : v.isLegal category kind = (Lookup.contains v.registry category kind).result.map
      (· && (v.registry.kind? kind).isSome) := rfl
    simp only [checkSlot, atSlot, hmember]
    generalize Lookup.contains v.registry category kind = lookup at hlogs
    cases hlogs with
    | fault error =>
      have hfollow : p.follow (.ofFault error) = p.logged [error.record] := p.follow_eq_logged rfl
      exact congrArg (·, some error) hfollow.symm
    | answer isMember =>
      have hsilent : p.logged [] = p := by rw [Progress.logged, List.append_nil]
      simp only [Lookup.answer, Except.map, hsilent]
      cases isMember && (v.registry.kind? kind).isSome with
      | true => exact congrFun Trace.replay_empty.symm p
      | false => rfl

/-- Checking a tree is checking its top node and then the children. -/
theorem checkTree_eq (node : Node) : (v.checkTree node : Step (Path × Progress σ) RegistryError) =
    Step.andThen (Step.atPath (v.checkNode node))
      (v.checkForest (v.content? node.kind) node.children 0) := by
  cases node with
  | parent tag children => rw [checkTree]; rfl
  | custom info children => rw [checkTree]; rfl
  | literal tag value => rw [checkTree, Node.children, checkForest, Step.andThen_skip]
  | leaf tag => rw [checkTree, Node.children, checkForest, Step.andThen_skip]

/-- The check of a tree, with the path and the progress that it shares with all others, notes the trace of
the tree at that path and leaves the path where it was. -/
theorem checkTree_eq_replay (node : Node) : (v.checkTree node : Step (Path × Progress σ) RegistryError) =
    Step.atPath fun path => (v.traceTree node path).replay := by
  -- for children, the path is still that of their holder: each goes down from it and comes back
  induction node using Node.forest_induction (Q := fun children => ∀ expected index,
      (v.checkForest expected children index : Step (Path × Progress σ) RegistryError) =
        Step.atPath fun path => (v.traceForest expected children path index).replay) with
  | nil expected index =>
    simp only [checkForest, traceForest, Trace.replay_empty]
    rfl
  | cons child rest ihchild ihrest expected index =>
    have hslot : (v.checkSlot expected child.kind : Path → Step (Progress σ) RegistryError) =
        fun path => (v.atSlot expected child.kind path).replay :=
      funext (checkSlot_eq_replay expected child.kind)
    rw [checkForest, hslot, ihchild, ihrest, Step.atPath_andThen_atPath, Step.atChild_atPath,
      Step.atPath_andThen_atPath]
    -- the slot and the tree of the child come first, then the rest, as in the trace of the children
    simp only [Step.andThen_assoc]
    simp only [traceForest, Trace.andThen_replay]
  | step node ihchildren =>
    have hnode : (v.checkNode node : Path → Step (Progress σ) RegistryError) =
        fun path => (v.atNode node path).replay := funext (checkNode_eq_replay node)
    rw [checkTree_eq, hnode, ihchildren, Step.atPath_andThen_atPath]
    simp only [traceTree_eq, Trace.andThen_replay]

/-- What a run leaves behind, read off its trace. -/
theorem run_eq_trace (v : Validator) (sink : Sink σ) (state : σ) (tree : Node) :
    v.run sink state tree =
      let report := Report.ofFindings (v.trace tree).findings
      { result := match (v.trace tree).fault with
          | some error => .error error
          | none => .ok report
        log := startRecord tree :: (v.trace tree).log ++
          (if (v.trace tree).fault.isSome then [] else [endRecord tree report])
        sink := (v.trace tree).findings.foldl sink.emit state } := by
  rw [run, checkTree_eq_replay]
  simp only [Step.atPath, Trace.replay]
  cases hfault : (v.traceTree tree Path.root).fault with
  | some error =>
    have htrace : v.trace tree = v.traceTree tree Path.root := Trace.append_of_fault_some hfault _
    simp [htrace, hfault, Progress.follow]
  | none =>
    have hend : (v.trace tree).fault = none := by
      rw [trace, Trace.append_of_fault_none hfault]
      split <;> rfl
    have hrefs : ∀ p : Progress σ, (if v.options.checkReferences then
        (p.follow (v.traceTree tree Path.root)).checkReferences v.options.identifierMatching tree
        else p.follow (v.traceTree tree Path.root)) = p.follow (v.trace tree) := by
      intro p
      rw [trace]
      split
      · rw [checkReferences_eq, Progress.pushAll_eq, p.follow_append hfault]
      · rw [Trace.append_empty]
    simp only [hrefs, hend]
    simp [Progress.follow]

end Validator

end WikiDoc
