import WikiDoc.Kind.Extension
import WikiDoc.Proofs.Document.Insertion
import WikiDoc.Proofs.Registry.Members
import WikiDoc.Proofs.Validation.Acceptance

/-!
What one more child costs.

Whether a node has a violation depends on the node above it through its kind alone, and not on where the
two stand. So when a tree without violations is inserted into another one, the nodes on both sides of it
have none, although the paths behind it shift, and neither has any node above it: only the place of the
inserted node itself is new, and may be wrong (`treeFindings_insertAt`).
-/

namespace WikiDoc

namespace Validator

variable {v : Validator}

/-- The findings of the tree at a path, below the node above it. -/
noncomputable def treeFindings (v : Validator) (above : Option Node) (path : Path) (tree : Node) :
    List Finding :=
  (tree.sitesFrom above path).flatMap v.siteFindings

/-- The findings of the trees below the node at a path, from its child at `index` on. -/
noncomputable def forestFindings (v : Validator) (holder : Node) (path : Path) (index : Nat)
    (children : List Node) : List Finding :=
  (Node.sitesBelow children holder path index).flatMap v.siteFindings

theorem treeFindings_eq (above : Option Node) (path : Path) (tree : Node) :
    v.treeFindings above path tree =
      ((v.violations above tree).map fun violation => ⟨path, violation⟩) ++
        v.forestFindings tree path 0 tree.children := by
  rw [treeFindings, Node.sitesFrom_eq, List.flatMap_cons]
  rfl

theorem forestFindings_cons (holder : Node) (path : Path) (index : Nat) (child : Node)
    (rest : List Node) : v.forestFindings holder path index (child :: rest) =
      v.treeFindings (some holder) (path.child index) child ++
        v.forestFindings holder path (index + 1) rest := by
  rw [forestFindings, Node.sitesBelow, List.flatMap_append]
  rfl

/-- No node of the tree has a violation, its top node standing below another one. -/
inductive Clean (v : Validator) : Option Node → Node → Prop
  | intro {above : Option Node} {tree : Node} (top : v.violations above tree = [])
      (below : ∀ child ∈ tree.children, Clean v (some tree) child) : Clean v above tree

/-- Nothing is found in a tree without violations, at whatever path it stands. -/
theorem treeFindings_eq_nil_iff (above : Option Node) (path : Path) (tree : Node) :
    v.treeFindings above path tree = [] ↔ v.Clean above tree := by
  induction tree using Node.forest_induction (Q := fun children => ∀ holder path index,
      v.forestFindings holder path index children = [] ↔
        ∀ child ∈ children, v.Clean (some holder) child)
    generalizing above path with
  | nil => simp [forestFindings, Node.sitesBelow]
  | cons child rest ihchild ihrest holder path index =>
    rw [forestFindings_cons, List.append_eq_nil_iff, ihchild, ihrest, List.forall_mem_cons]
  | step tree ihchildren =>
    rw [treeFindings_eq, List.append_eq_nil_iff, List.map_eq_nil_iff, ihchildren]
    constructor
    · rintro ⟨top, below⟩
      exact ⟨top, below⟩
    · rintro ⟨top, below⟩
      exact ⟨top, below⟩

theorem forestFindings_eq_nil {holder : Node} {children : List Node}
    (h : ∀ child ∈ children, v.Clean (some holder) child) (path : Path) (index : Nat) :
    v.forestFindings holder path index children = [] := by
  induction children generalizing index with
  | nil => simp [forestFindings, Node.sitesBelow]
  | cons child rest ih =>
    rw [List.forall_mem_cons] at h
    rw [forestFindings_cons, (treeFindings_eq_nil_iff _ _ _).2 h.1, ih h.2, List.nil_append]

/-- Among trees without violations, one tree alone has findings. -/
theorem forestFindings_middle {holder middle : Node} {front back : List Node}
    (hfront : ∀ child ∈ front, v.Clean (some holder) child)
    (hback : ∀ child ∈ back, v.Clean (some holder) child) (path : Path) (index : Nat) :
    v.forestFindings holder path index (front ++ middle :: back) =
      v.treeFindings (some holder) (path.child (index + front.length)) middle := by
  induction front generalizing index with
  | nil =>
    rw [List.nil_append, forestFindings_cons, forestFindings_eq_nil hback, List.append_nil]
    rfl
  | cons child rest ih =>
    rw [List.forall_mem_cons] at hfront
    rw [List.cons_append, forestFindings_cons, (treeFindings_eq_nil_iff _ _ _).2 hfront.1,
      ih hfront.2, List.nil_append, List.length_cons, Nat.add_assoc, Nat.add_comm 1]

/-! ### What the violations of a node depend on -/

/-- Of the node above, only the kind counts. -/
theorem violations_above {holder holder' : Node} (h : holder'.kind = holder.kind) (node : Node) :
    v.violations (some holder') node = v.violations (some holder) node := by
  simp only [violations, misplacements, Option.bind_some, h]

/-- Of the node itself, the kind, the attributes and the shape that is seen. -/
theorem violations_congr {node node' : Node} (hkind : node'.kind = node.kind)
    (hattributes : node'.attributes = node.attributes)
    (hshape : node'.observedShape = node.observedShape) (above : Option Node) :
    v.violations above node' = v.violations above node := by
  have hplace : v.misplacements above node' = v.misplacements above node := by
    rw [misplacements, misplacements, hkind]
  have hshapes : v.misshapes node' = v.misshapes node := by
    rw [misshapes_eq, misshapes_eq, hkind, hshape]
  have hrules : v.badAttributes node' = v.badAttributes node := by
    rw [badAttributes_eq, badAttributes_eq, hkind, hattributes]
  rw [violations, violations, hplace, hshapes, hrules]

theorem Clean.of_kind_eq {holder holder' tree : Node} (h : v.Clean (some holder) tree)
    (hkind : holder'.kind = holder.kind) : v.Clean (some holder') tree := by
  obtain ⟨top, below⟩ := h
  exact ⟨(violations_above hkind tree).trans top, below⟩

theorem treeFindings_above {holder holder' : Node} (h : holder'.kind = holder.kind) (path : Path)
    (tree : Node) : v.treeFindings (some holder') path tree = v.treeFindings (some holder) path tree := by
  rw [treeFindings_eq, treeFindings_eq, violations_above h]

theorem observedShape_of_misshapes {node : Node} (h : v.misshapes node = []) {d : KindDef}
    (hd : v.registry.kind? node.kind = some d) : node.observedShape = d.shape := by
  rw [misshapes_eq, hd] at h
  by_contra hne
  simp [hne] at h

/-- Of a tree without violations, the parts that are about its top node. -/
theorem Clean.violations_eq_nil {above : Option Node} {tree : Node} (h : v.Clean above tree) :
    v.misplacements above tree = [] ∧ v.misshapes tree = [] ∧ v.badAttributes tree = [] := by
  obtain ⟨top, -⟩ := h
  rw [violations, List.append_eq_nil_iff, List.append_eq_nil_iff] at top
  exact ⟨top.1.1, top.1.2, top.2⟩

/-- A tree without violations has at most one where it is put: its kind does not belong there. -/
theorem Clean.treeFindings_inserted {tree : Node} (h : v.Clean none tree) (holder : Node) (path : Path) :
    v.treeFindings (some holder) path tree =
      (v.misplacements (some holder) tree).map fun violation => ⟨path, violation⟩ := by
  obtain ⟨-, hshape, hattributes⟩ := h.violations_eq_nil
  obtain ⟨-, below⟩ := h
  rw [treeFindings_eq, forestFindings_eq_nil below, List.append_nil, violations, hshape, hattributes,
    List.append_nil, List.append_nil]

/-! ### One child more, or another child -/

/-- A node without a violation whose children, all but one, are without violations: what is found is
found in that child. -/
theorem treeFindings_of_child {above : Option Node} {node node' middle : Node} {front back : List Node}
    (hkind : node'.kind = node.kind) (htop : v.violations above node' = [])
    (hchildren : node'.children = front ++ middle :: back)
    (hclean : ∀ child ∈ front ++ back, v.Clean (some node) child) (path : Path) :
    v.treeFindings above path node' =
      v.treeFindings (some node) (path.child front.length) middle := by
  have hclean' : ∀ child ∈ front ++ back, v.Clean (some node') child :=
    fun child hchild => (hclean child hchild).of_kind_eq hkind
  rw [List.forall_mem_append] at hclean'
  rw [treeFindings_eq, htop, hchildren, forestFindings_middle hclean'.1 hclean'.2, List.map_nil,
    List.nil_append, Nat.zero_add, treeFindings_above hkind]

/-- A node of a kind with children gets one more: what is found is that it does not belong there. -/
theorem treeFindings_insertChild {above : Option Node} {node inserted : Node} {d : KindDef} {i : Nat}
    (h : v.Clean above node) (hd : v.registry.kind? node.kind = some d) (hshape : d.shape = .parent)
    (hi : i ≤ node.children.length) (hinserted : v.Clean none inserted) (path : Path) :
    v.treeFindings above path (node.insertChild i inserted) =
      (v.misplacements (some node) inserted).map fun violation => ⟨path.child i, violation⟩ := by
  have hseen : node.observedShape = .parent :=
    (observedShape_of_misshapes h.violations_eq_nil.2.1 hd).trans hshape
  obtain ⟨front, back, hsplit, rfl, hinsert⟩ := List.exists_of_modifyTailIdx (List.cons inserted) hi
  have hchildren : (node.insertChild front.length inserted).children = front ++ inserted :: back :=
    (Node.children_withChildren hseen _).trans hinsert
  have hseen' : (node.insertChild front.length inserted).observedShape = node.observedShape := by
    rw [hseen, Node.observedShape_of_children (by simp [hchildren])]
  have hkind : (node.insertChild front.length inserted).kind = node.kind := Node.kind_withChildren ..
  obtain ⟨htop, hbelow⟩ := h
  rw [hsplit] at hbelow
  have htop' : v.violations above (node.insertChild front.length inserted) = [] :=
    (violations_congr hkind (Node.attributes_withChildren ..) hseen' above).trans htop
  rw [treeFindings_of_child hkind htop' hchildren hbelow, hinserted.treeFindings_inserted]

/-- A child is changed, and without violations before: what is found is found in the child. -/
theorem treeFindings_modify {above : Option Node} {tree child : Node} {j : Nat} (change : Node → Node)
    (h : v.Clean above tree) (hj : tree.children[j]? = some child) (path : Path) :
    v.treeFindings above path (tree.withChildren (tree.children.modify j change)) =
      v.treeFindings (some tree) (path.child j) (change child) := by
  obtain ⟨hlt, hget⟩ := List.getElem?_eq_some_iff.1 hj
  obtain ⟨front, old, back, hsplit, rfl, hmodify⟩ := List.exists_of_modify change hlt
  obtain rfl : old = child := by simpa [hsplit] using hj
  have hchildren := (Node.children_withChildren_modify tree front.length change).trans hmodify
  have hseen : (tree.withChildren (tree.children.modify front.length change)).observedShape =
      tree.observedShape := by
    rw [Node.observedShape_of_children (hchildren ▸ by simp),
      Node.observedShape_of_children (hsplit ▸ by simp)]
  obtain ⟨htop, hbelow⟩ := h
  have hkind : (tree.withChildren (tree.children.modify front.length change)).kind = tree.kind :=
    Node.kind_withChildren ..
  have htop' : v.violations above (tree.withChildren (tree.children.modify front.length change)) = [] :=
    (violations_congr hkind (Node.attributes_withChildren ..) hseen above).trans htop
  refine treeFindings_of_child hkind htop' hchildren ?_ path
  intro other hother
  apply hbelow
  rw [hsplit]
  simp only [List.mem_append, List.mem_cons] at hother ⊢
  exact hother.imp_right Or.inr

/-- A tree without violations is inserted into another one: what is found is that it does not belong
where it was put. -/
theorem treeFindings_insertAt {node inserted : Node} {d : KindDef} {i : Nat}
    (hd : v.registry.kind? node.kind = some d) (hshape : d.shape = .parent)
    (hi : i ≤ node.children.length) (hinserted : v.Clean none inserted) (indices : List Nat) :
    ∀ {above : Option Node} {tree : Node} (path : Path), v.Clean above tree →
      tree.descend indices = some node →
      v.treeFindings above path (Node.modifyAt (fun n => n.insertChild i inserted) indices tree) =
        (v.misplacements (some node) inserted).map fun violation =>
          ⟨⟨path.indices ++ indices ++ [i]⟩, violation⟩ := by
  induction indices with
  | nil =>
    intro above tree path h hnode
    rw [Node.descend_nil, Option.some.injEq] at hnode
    subst hnode
    rw [Node.modifyAt, treeFindings_insertChild h hd hshape hi hinserted, List.append_nil]
    rfl
  | cons j rest ih =>
    intro above tree path h hnode
    rw [Node.descend_cons, Option.bind_eq_some_iff] at hnode
    obtain ⟨child, hj, hnode⟩ := hnode
    have hchild : v.Clean (some tree) child := by
      obtain ⟨-, hbelow⟩ := h
      exact hbelow child (List.mem_of_getElem? hj)
    have hpath : (path.child j).indices ++ rest = path.indices ++ j :: rest := by simp [Path.child]
    rw [Node.modifyAt, treeFindings_modify _ h hj, ih (path.child j) hchild hnode, hpath]

theorem clean_iff_accepts {tree : Node} : v.Clean none tree ↔ v.Accepts tree := by
  rw [← treeFindings_eq_nil_iff none Path.root, ← flatMap_siteFindings_eq_nil]
  rfl

/-- Below a node whose kind asks for a category, a node is out of place unless the search finds its kind
there and the kind has a definition. -/
theorem misplacements_of_content (hr : v.registry.WellFormed) {holder : Node} {c : Category}
    (hc : v.content? holder.kind = some c) (node : Node) : v.misplacements (some holder) node =
      if v.registry.contains c node.kind = .ok true ∧ (v.registry.kind? node.kind).isSome then []
      else [.misplaced c node.kind] := by
  simp only [misplacements, Option.bind_some, hc]
  by_cases h : v.registry.Belongs c node.kind ∧ (v.registry.kind? node.kind).isSome
  · rw [if_pos h, if_pos ⟨(Registry.contains_eq_true_iff hr).2 h.1, h.2⟩]
  · rw [if_neg h, if_neg fun h' => h ⟨(Registry.contains_eq_true_iff hr).1 h'.1, h'.2⟩]

end Validator

/-- A tree without a finding is inserted into a valid one, at any index among the children of a node
whose kind has children and names their category. Nothing else of the tree changes, and there is no
finding if the kind of the inserted tree belongs to the category and has a definition. Otherwise there
is exactly one: the inserted tree stands where its kind does not belong. -/
theorem insertion_costs_one_finding (r : Registry) (hr : r.Reachable) (options : ValidatorOptions)
    (hoff : options.checkReferences = false) (tree inserted : Node)
    (htree : ∃ report, (Validator.mk r options).validate tree = .ok report ∧ report.valid)
    (hinserted : ∃ report, (Validator.mk r options).validate inserted = .ok report ∧
      report.findings = [])
    (path : Path) (node : Node) (hnode : tree.at? path = some node) (d : KindDef)
    (hd : r.kind? node.kind = some d) (hshape : d.shape = .parent) (c : Category)
    (hc : d.content = some c) (i : Nat) (hi : i ≤ node.children.length) :
    (∃ node', (tree.insertAt path i inserted).at? path = some node' ∧ node'.kind = node.kind ∧
      node'.attributes = node.attributes ∧ node'.value = node.value ∧
      node'.children = node.children.insertIdx i inserted) ∧
    (r.contains c inserted.kind = .ok true ∧ (r.kind? inserted.kind).isSome →
      (Validator.mk r options).validate (tree.insertAt path i inserted) = .ok ⟨true, []⟩) ∧
    (¬ (r.contains c inserted.kind = .ok true ∧ (r.kind? inserted.kind).isSome) →
      (Validator.mk r options).validate (tree.insertAt path i inserted) =
        .ok ⟨false, [⟨path.child i, .misplaced c inserted.kind⟩]⟩) := by
  have hwell := hr.wellFormed
  have haccepts : (Validator.mk r options).Accepts tree := ((Validator.validate_valid_iff hwell).1 htree).1
  have hclean' : (Validator.mk r options).Clean none inserted := by
    obtain ⟨report, hreport, hnone⟩ := hinserted
    exact Validator.clean_iff_accepts.2 ((Validator.findings_eq_nil_iff hwell hreport).1 hnone).1
  have hcontent : (Validator.mk r options).content? node.kind = some c := by
    rw [Validator.content?, hd, Option.bind_some, hc]
  have hseen : node.observedShape = .parent :=
    (Validator.observedShape_of_misshapes (haccepts.violations_eq_nil hnode).2.1 hd).trans hshape
  have hfound : (tree.insertAt path i inserted).sites.flatMap (Validator.mk r options).siteFindings = _ :=
    Validator.treeFindings_insertAt hd hshape hi hclean' path.indices Path.root
      (Validator.clean_iff_accepts.2 haccepts) hnode
  rw [Validator.misplacements_of_content hwell hcontent] at hfound
  have hvalidate := Validator.validate_eq (v := ⟨r, options⟩) hwell (tree.insertAt path i inserted)
  have hrefs : (Validator.mk r options).referenceFindings? (tree.insertAt path i inserted) = [] := by
    rw [Validator.referenceFindings?, hoff, if_neg Bool.false_ne_true]
  rw [hrefs, List.append_nil, hfound] at hvalidate
  refine ⟨⟨_, Node.at?_insertAt hnode i inserted, Node.kind_withChildren ..,
    Node.attributes_withChildren .., Node.value_withChildren .., Node.children_withChildren hseen _⟩,
    ?_, ?_⟩
  · intro hlegal
    rw [hvalidate, if_pos hlegal]
    rfl
  · intro hillegal
    rw [hvalidate, if_neg hillegal]
    rfl

/-- A list item with a paragraph in it is put into an empty block quote, and a poem between the quote and
the paragraph behind it. -/
theorem insertion_costs_one_finding_item :
    let tree : Node := .parent .root [.parent .blockquote [], .parent .paragraph [.literal .text "a"]]
    let item : Node := .parent (.listItem {}) [.parent .paragraph [.literal .text "b"]]
    let poem := Extension.poem [.literal .text "c"]
    let r := Registry.baseline.after [.define Extension.poemDef]
    let v : Validator := ⟨r, { checkReferences := false }⟩
    r.Reachable ∧ v.validate tree = .ok ⟨true, []⟩ ∧ v.validate item = .ok ⟨true, []⟩ ∧
      v.validate poem = .ok ⟨true, []⟩ ∧
      (∃ d, r.kind? "blockquote" = some d ∧ d.shape = .parent ∧ d.content = some .flow) ∧
      (∃ d, r.kind? "root" = some d ∧ d.shape = .parent ∧ d.content = some .flow) ∧
      v.validate (tree.insertAt ⟨[0]⟩ 0 item) =
        .ok ⟨false, [⟨⟨[0, 0]⟩, .misplaced .flow "listItem"⟩]⟩ ∧
      v.validate (tree.insertAt Path.root 1 poem) = .ok ⟨true, []⟩ := by
  intro tree item poem r v
  have hr : r.Reachable := ⟨_, Or.inr rfl⟩
  have htree : v.validate tree = .ok ⟨true, []⟩ := by decide +kernel
  have hitem : v.validate item = .ok ⟨true, []⟩ := by decide +kernel
  have hpoem : v.validate poem = .ok ⟨true, []⟩ := by decide +kernel
  have hholds : ∀ kind ∈ ["blockquote", "root"],
      (r.kind? kind).map (fun d => (d.shape, d.content)) = some (.parent, some .flow) := by
    decide +kernel
  have hholder : ∀ kind ∈ ["blockquote", "root"],
      ∃ d, r.kind? kind = some d ∧ d.shape = .parent ∧ d.content = some .flow := by
    intro kind hkind
    obtain ⟨d, hd, heq⟩ := Option.map_eq_some_iff.1 (hholds kind hkind)
    exact ⟨d, hd, congrArg Prod.fst heq, congrArg Prod.snd heq⟩
  obtain ⟨quote, hquote, hquoteshape, hquotecontent⟩ := hholder "blockquote" (by simp)
  obtain ⟨root, hroot, hrootshape, hrootcontent⟩ := hholder "root" (by simp)
  have hput := insertion_costs_one_finding r hr _ rfl tree item ⟨_, htree, rfl⟩ ⟨_, hitem, rfl⟩ ⟨[0]⟩ _
    rfl quote hquote hquoteshape .flow hquotecontent 0 (by decide)
  have hput' := insertion_costs_one_finding r hr _ rfl tree poem ⟨_, htree, rfl⟩ ⟨_, hpoem, rfl⟩ Path.root _
    rfl root hroot hrootshape .flow hrootcontent 1 (by decide)
  exact ⟨hr, htree, hitem, hpoem, ⟨quote, hquote, hquoteshape, hquotecontent⟩,
    ⟨root, hroot, hrootshape, hrootcontent⟩, hput.2.2 (by decide +kernel), hput'.2.1 (by decide +kernel)⟩

end WikiDoc
