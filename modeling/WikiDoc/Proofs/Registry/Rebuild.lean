import WikiDoc.Kind.Extension
import WikiDoc.Proofs.Document.PostOrder
import WikiDoc.Proofs.Kind.RoundTrip
import WikiDoc.Proofs.Registry.Baseline
import WikiDoc.Proofs.Validation.Exactness
import WikiDoc.Registry.Rebuild

/-!
Rebuilding trees of built-in nodes.

In every registry that grew from the baseline, a tree of built-in nodes is rebuilt as it was, unless a
node has a problem with its attributes. Then the work ends at the first such node, children before
parents, with the error that its first problem causes (`rebuild_eq`). As the validator reports the same
problems, a tree can be rebuilt exactly when it has no finding about attributes.
-/

namespace WikiDoc

/-- All nodes of the tree are of built-in kinds. -/
def Node.BuiltIn (tree : Node) : Prop := ∀ path node, tree.at? path = some node → node.origin? = none

theorem Node.BuiltIn.child {node child : Node} (h : node.BuiltIn) (hchild : child ∈ node.children) :
    child.BuiltIn := by
  intro path inner hinner
  obtain ⟨i, hi⟩ := List.mem_iff_getElem?.1 hchild
  apply h ⟨i :: path.indices⟩ inner
  rw [at?, descend_cons, hi, Option.bind_some]
  exact hinner

theorem Node.builtIn_iff {tree : Node} :
    tree.BuiltIn ↔ ∀ place ∈ tree.postorder, place.2.origin? = none := by
  constructor
  · rintro h ⟨path, node⟩ hmem
    exact h path node ((tree.mem_postorder path node).1 hmem)
  · intro h path node hnode
    exact h (path, node) ((tree.mem_postorder path node).2 hnode)

instance (tree : Node) : Decidable tree.BuiltIn := decidable_of_iff _ Node.builtIn_iff.symm

theorem orFail_bind {ε α β : Type} (value : α) (failure : Option ε) (next : α → Except ε β) :
    orFail value failure >>= next = match failure with
      | none => next value
      | some error => .error error := by
  cases failure <;> rfl

namespace Registry

/-- The problems of a node with the rules of its kind. -/
def problemsOf (r : Registry) (node : Node) : List AttributeProblem :=
  match r.kind? node.kind with
  | none => []
  | some d => d.problems node.attributes

/-- The error that the first problem of a node causes. -/
def failure? (r : Registry) (node : Node) : Option BuildError :=
  (r.problemsOf node).head?.map (KindDef.problemError node.kind)

/-- The same together with the path of the node. -/
def failureAt? (r : Registry) (place : Path × Node) : Option (Path × BuildError) :=
  (r.failure? place.2).map fun error => (place.1, error)

variable {r : Registry}

/-- A built-in node with its own children is built again unless its attributes have a problem. -/
theorem rebuildNode_eq (hr : baseline.Grows r) {node : Node} (h : node.origin? = none) (path : Path) :
    r.rebuildNode node path node.children = orFail node (r.failureAt? (path, node)) := by
  obtain ⟨d, hd, hkind, hconstruct⟩ := construct_parts h
  have hdef : r.kind? node.kind = some d := hr.kind? (kind?_baseline.2 ⟨hd, hkind⟩)
  have hparts : { node.parts with children := node.children } = node.parts := rfl
  rw [rebuildNode, construct, hdef, hparts, failureAt?, failure?, problemsOf, hdef]
  simp only [hconstruct, KindDef.failure?, hkind]
  cases (d.problems node.attributes).head? <;> rfl

theorem rebuildTree_step (node : Node) (path : Path) : r.rebuildTree node path =
    r.rebuildForest node.children path 0 >>= r.rebuildNode node path := by
  cases node with
  | parent tag children => rw [rebuildTree]; rfl
  | custom info children => rw [rebuildTree]; rfl
  | literal tag value => rw [rebuildTree, Node.children, rebuildForest]; rfl
  | leaf tag => rw [rebuildTree, Node.children, rebuildForest]; rfl

/-- A tree of built-in nodes is rebuilt as it was, unless a node fails; the first one decides. -/
theorem rebuildTree_eq (hr : baseline.Grows r) (node : Node) (path : Path) (h : node.BuiltIn) :
    r.rebuildTree node path = orFail node ((node.postorderFrom path).findSome? r.failureAt?) := by
  induction node using Node.forest_induction (Q := fun children => ∀ path index,
      (∀ child ∈ children, child.BuiltIn) → r.rebuildForest children path index =
        orFail children ((Node.postorderBelow children path index).findSome? r.failureAt?))
    generalizing path with
  | nil => rw [rebuildForest, Node.postorderBelow]; rfl
  | cons child rest ihchild ihrest path index hbuiltin =>
    rw [List.forall_mem_cons] at hbuiltin
    rw [rebuildForest, Node.postorderBelow, List.findSome?_append, ihchild _ hbuiltin.1,
      ihrest path (index + 1) hbuiltin.2]
    cases (child.postorderFrom (path.child index)).findSome? r.failureAt? with
    | some failure => rfl
    | none =>
      cases (Node.postorderBelow rest path (index + 1)).findSome? r.failureAt? <;> rfl
  | step node ihchildren =>
    have hnode : node.origin? = none := h Path.root node (Node.at?_root node)
    rw [rebuildTree_step, ihchildren path 0 fun child hchild => h.child hchild, Node.postorderFrom_eq,
      List.findSome?_append, orFail_bind]
    cases (Node.postorderBelow node.children path 0).findSome? r.failureAt? with
    | some failure => rfl
    | none =>
      simp only [rebuildNode_eq hr hnode, Option.none_or, List.findSome?_cons, List.findSome?_nil]
      cases r.failureAt? (path, node) <;> rfl

theorem rebuild_eq (hr : baseline.Grows r) {tree : Node} (h : tree.BuiltIn) :
    r.rebuild tree = orFail tree (tree.postorder.findSome? r.failureAt?) :=
  rebuildTree_eq hr tree Path.root h

/-! ### Where it succeeds and how it fails -/

theorem failureAt?_eq_none {place : Path × Node} :
    r.failureAt? place = none ↔ r.problemsOf place.2 = [] := by
  rw [failureAt?, Option.map_eq_none_iff, failure?, Option.map_eq_none_iff, List.head?_eq_none_iff]

theorem failureAt?_eq_some {place : Path × Node} {path : Path} {error : BuildError} :
    r.failureAt? place = some (path, error) ↔ place.1 = path ∧ ∃ problem rest,
      r.problemsOf place.2 = problem :: rest ∧ KindDef.problemError place.2.kind problem = error := by
  rw [failureAt?, failure?]
  cases r.problemsOf place.2 with
  | nil => simp
  | cons problem rest => simp

/-- A tree of built-in nodes can be rebuilt exactly when no node has a problem; it comes back as it
was. -/
theorem rebuild_eq_ok (hr : baseline.Grows r) {tree : Node} (h : tree.BuiltIn) {rebuilt : Node} :
    r.rebuild tree = .ok rebuilt ↔ rebuilt = tree ∧
      ∀ path node, tree.at? path = some node → r.problemsOf node = [] := by
  have hnone : tree.postorder.findSome? r.failureAt? = none ↔
      ∀ path node, tree.at? path = some node → r.problemsOf node = [] := by
    rw [List.findSome?_eq_none_iff]
    constructor
    · intro h path node hnode
      exact failureAt?_eq_none.1 (h (path, node) ((tree.mem_postorder path node).2 hnode))
    · rintro h ⟨path, node⟩ hmem
      exact failureAt?_eq_none.2 (h path node ((tree.mem_postorder path node).1 hmem))
  rw [rebuild_eq hr h, ← hnone]
  cases tree.postorder.findSome? r.failureAt? with
  | none => simp [orFail, eq_comm]
  | some failure => simp [orFail]

/-- A tree of built-in nodes fails at the first node with a problem, children before parents, and with
the first problem of that node. -/
theorem rebuild_eq_error (hr : baseline.Grows r) {tree : Node} (h : tree.BuiltIn) {path : Path}
    {error : BuildError} : r.rebuild tree = .error (path, error) ↔
      ∃ before node after problem rest, tree.postorder = before ++ (path, node) :: after ∧
        (∀ place ∈ before, r.problemsOf place.2 = []) ∧ r.problemsOf node = problem :: rest ∧
        KindDef.problemError node.kind problem = error := by
  have hfails : r.rebuild tree = .error (path, error) ↔
      tree.postorder.findSome? r.failureAt? = some (path, error) := by
    rw [rebuild_eq hr h]
    cases tree.postorder.findSome? r.failureAt? with
    | none => simp [orFail]
    | some failure => simp [orFail]
  rw [hfails, List.findSome?_eq_some_iff]
  constructor
  · rintro ⟨before, ⟨_, node⟩, after, hsplit, hfailure, hbefore⟩
    obtain ⟨rfl, problem, rest, hproblems, herror⟩ := failureAt?_eq_some.1 hfailure
    exact ⟨before, node, after, problem, rest, hsplit,
      fun place hplace => failureAt?_eq_none.1 (hbefore place hplace), hproblems, herror⟩
  · rintro ⟨before, node, after, problem, rest, hsplit, hbefore, hproblems, herror⟩
    exact ⟨before, (path, node), after, hsplit,
      failureAt?_eq_some.2 ⟨rfl, problem, rest, hproblems, herror⟩,
      fun place hplace => failureAt?_eq_none.2 (hbefore place hplace)⟩

end Registry

/-- The error says which attribute of which kind has the problem, and why. -/
def BuildError.Names (kind : String) (problem : AttributeProblem) : BuildError → Prop
  | .missingAttribute k name => k = kind ∧ problem = .missing name
  | .invalidAttribute k name refusal => k = kind ∧ (∀ missing, problem ≠ .missing missing) ∧
      name = problem.attributeName ∧ refusal.message = problem.reason
  | .unknownKind _ | .invalidShape _ _ | .notConstructible _ => False

theorem KindDef.problemError_names (kind : String) (problem : AttributeProblem) :
    (problemError kind problem).Names kind problem := by
  cases problem with
  | missing name => exact ⟨rfl, rfl⟩
  | undeclared name => exact ⟨rfl, nofun, rfl, rfl⟩
  | invalid name rejection => exact ⟨rfl, nofun, rfl, rfl⟩

/-- Whatever is added to the baseline, a tree of built-in nodes can be rebuilt exactly when a
validation has no finding about attributes. It comes back as it was, or fails at the first node with
such a problem, children before parents, with an error that names the first problem. -/
theorem rebuild_iff_attributes_valid (history : List Mutation) (tree : Node) (h : tree.BuiltIn)
    (options : ValidatorOptions) (hcheck : options.checkAttributes = true) :
    ∃ report, (Validator.mk (Registry.baseline.after history) options).validate tree = .ok report ∧
      ((∃ rebuilt, (Registry.baseline.after history).rebuild tree = .ok rebuilt) ↔
        ∀ path problem, ⟨path, .badAttribute problem⟩ ∉ report.findings) ∧
      (∀ rebuilt, (Registry.baseline.after history).rebuild tree = .ok rebuilt → rebuilt = tree) ∧
      ∀ path error, (Registry.baseline.after history).rebuild tree = .error (path, error) →
        ∃ before node after problem rest, tree.postorder = before ++ (path, node) :: after ∧
          tree.at? path = some node ∧
          (∀ place ∈ before, (Registry.baseline.after history).problemsOf place.2 = []) ∧
          (Registry.baseline.after history).problemsOf node = problem :: rest ∧
          error.Names node.kind problem := by
  have hr : (Registry.baseline.after history).WellFormed :=
    (Registry.reachable_baseline.after history).wellFormed
  have hgrows : Registry.baseline.Grows (Registry.baseline.after history) :=
    (Registry.steps_after history Registry.baseline).grows
  obtain ⟨report, hreport⟩ : ∃ report,
      (Validator.mk (Registry.baseline.after history) options).validate tree = .ok report :=
    ⟨_, Validator.validate_eq hr tree⟩
  refine ⟨report, hreport, ?_, ?_, ?_⟩
  · rw [exists_congr fun rebuilt => Registry.rebuild_eq_ok hgrows h, exists_eq_left]
    constructor
    · intro hnone path problem hfound
      obtain ⟨node, d, hnode, hd, hproblem⟩ :=
        (Validator.badAttribute_mem_findings hr hcheck hreport path problem).1 hfound
      have hproblems := hnone path node hnode
      rw [Registry.problemsOf, hd] at hproblems
      exact List.ne_nil_of_mem hproblem hproblems
    · intro hnone path node hnode
      rw [Registry.problemsOf]
      cases hd : (Registry.baseline.after history).kind? node.kind with
      | none => rfl
      | some d =>
        refine List.eq_nil_iff_forall_not_mem.2 fun problem hproblem => ?_
        exact hnone path problem ((Validator.badAttribute_mem_findings hr hcheck hreport path problem).2
          ⟨node, d, hnode, hd, hproblem⟩)
  · exact fun rebuilt hok => ((Registry.rebuild_eq_ok hgrows h).1 hok).1
  · intro path error herror
    obtain ⟨before, node, after, problem, rest, hsplit, hbefore, hproblems, rfl⟩ :=
      (Registry.rebuild_eq_error hgrows h).1 herror
    refine ⟨before, node, after, problem, rest, hsplit, ?_, hbefore, hproblems,
      KindDef.problemError_names node.kind problem⟩
    rw [← tree.mem_postorder, hsplit]
    exact List.mem_append_right _ List.mem_cons_self

/-- A heading that is too deep, with a redirect below it to a target of two lines. -/
theorem rebuild_iff_attributes_valid_heading :
    let tree : Node := .parent .root [.parent .paragraph [.literal .text "a"],
      .parent (.heading 9) [.leaf (.redirect "b\nc")]]
    let r := Registry.baseline.after [.define Extension.poemDef]
    tree.BuiltIn ∧ (r.rebuild tree).isOk = false ∧
      ∃ report, (Validator.mk r {}).validate tree = .ok report ∧
        ((∃ rebuilt, r.rebuild tree = .ok rebuilt) ↔
          ∀ path problem, ⟨path, .badAttribute problem⟩ ∉ report.findings) ∧
        (∀ rebuilt, r.rebuild tree = .ok rebuilt → rebuilt = tree) ∧
        ∀ path error, r.rebuild tree = .error (path, error) →
          ∃ before node after problem rest, tree.postorder = before ++ (path, node) :: after ∧
            tree.at? path = some node ∧ (∀ place ∈ before, r.problemsOf place.2 = []) ∧
            r.problemsOf node = problem :: rest ∧ error.Names node.kind problem := by
  intro tree r
  have hbuiltin : tree.BuiltIn := by decide +kernel
  have hfails : (r.rebuild tree).isOk = false := by decide +kernel
  exact ⟨hbuiltin, hfails, rebuild_iff_attributes_valid _ tree hbuiltin {} rfl⟩

end WikiDoc
