import WikiDoc.Proofs.Registry.Baseline
import WikiDoc.Proofs.Validation.Exactness

/-!
Valid trees.

A tree is valid when none of its nodes has a violation (`Accepts`) and no reference is left open. If
every kind with children names the category they must belong to, then all kinds in a valid tree below a
defined top node are defined (`Accepts.defined`): nothing that is defined later can touch the tree. So a
valid tree stays valid whatever is added to the registry (`Accepts.grows`).
-/

namespace WikiDoc

namespace Validator

/-- No node of the tree has a violation. -/
def Accepts (v : Validator) (tree : Node) : Prop :=
  ∀ path node, tree.at? path = some node → v.violations (tree.above? path) node = []

variable {v : Validator} {tree : Node}

theorem flatMap_siteFindings_eq_nil : tree.sites.flatMap v.siteFindings = [] ↔ v.Accepts tree := by
  rw [List.flatMap_eq_nil_iff]
  constructor
  · intro h path node hnode
    exact List.map_eq_nil_iff.1 (h ⟨path, node, tree.above? path⟩ ((Node.mem_sites ..).2 ⟨hnode, rfl⟩))
  · intro h s hs
    obtain ⟨hnode, habove⟩ := (Node.mem_sites tree s).1 hs
    rw [siteFindings, habove, h s.path s.node hnode, List.map_nil]

/-- A validation finds nothing exactly when the tree is accepted and no reference is open. -/
theorem findings_eq_nil_iff (hr : v.registry.WellFormed) {report : Report}
    (h : v.validate tree = .ok report) :
    report.findings = [] ↔ v.Accepts tree ∧ v.referenceFindings? tree = [] := by
  rw [validate_eq hr] at h
  cases h
  rw [← flatMap_siteFindings_eq_nil, ← List.append_eq_nil_iff]
  rfl

theorem validate_valid_iff (hr : v.registry.WellFormed) :
    (∃ report, v.validate tree = .ok report ∧ report.valid) ↔
      v.Accepts tree ∧ v.referenceFindings? tree = [] := by
  rw [← findings_eq_nil_iff hr (validate_eq hr tree), ← List.isEmpty_iff, validate_eq hr]
  constructor
  · rintro ⟨report, hreport, hvalid⟩
    cases hreport
    exact hvalid
  · exact fun h => ⟨_, rfl, h⟩

/-! ### What an accepted tree is like -/

theorem misplacements_eq_nil {above : Option Node} {node : Node} {category : Category}
    (hc : (above.bind fun holder => v.content? holder.kind) = some category) :
    v.misplacements above node = [] ↔
      v.registry.Belongs category node.kind ∧ (v.registry.kind? node.kind).isSome := by
  simp only [misplacements, hc]
  by_cases h : v.registry.Belongs category node.kind ∧ (v.registry.kind? node.kind).isSome
  · exact iff_of_true (if_pos h) h
  · refine iff_of_false ?_ h
    rw [if_neg h]
    exact List.cons_ne_nil _ _

theorem Accepts.violations_eq_nil (h : v.Accepts tree) {path : Path} {node : Node}
    (hnode : tree.at? path = some node) : v.misplacements (tree.above? path) node = [] ∧
      v.misshapes node = [] ∧ v.badAttributes node = [] := by
  have := h path node hnode
  rw [violations, List.append_eq_nil_iff, List.append_eq_nil_iff] at this
  exact ⟨this.1.1, this.1.2, this.2⟩

theorem above?_child {path : Path} {node : Node} (hnode : tree.at? path = some node) (i : Nat) :
    tree.above? (path.child i) = some node := by
  have hroot : (path.child i).isRoot = false := by simp [Path.isRoot, Path.child]
  have hparent : (path.child i).parent = path := by simp [Path.parent, Path.child]
  rw [Node.above?, hroot, if_neg Bool.false_ne_true, hparent, hnode]

/-- A child in an accepted tree belongs to the category that the kind of its parent asks for. -/
theorem Accepts.child (h : v.Accepts tree) (hnames : v.registry.NamesContent) {path : Path}
    {node child : Node} {i : Nat} (hnode : tree.at? path = some node)
    (hchild : node.children[i]? = some child) (hdef : (v.registry.kind? node.kind).isSome) :
    ∃ category, v.content? node.kind = some category ∧
      v.registry.Belongs category child.kind ∧ (v.registry.kind? child.kind).isSome := by
  obtain ⟨d, hd⟩ := Option.isSome_iff_exists.1 hdef
  -- the node has children, so its kind must be one with children, which names a category
  have hshape : d.shape = .parent := by
    have hnone := (h.violations_eq_nil hnode).2.1
    have hsome : node.children.isEmpty = false :=
      List.isEmpty_eq_false_iff_exists_mem.2 ⟨child, List.mem_of_getElem? hchild⟩
    have hobserved : node.observedShape = .parent := by simp [Node.observedShape, hsome]
    rw [misshapes_eq, hd, hobserved] at hnone
    by_contra hne
    simp [Ne.symm hne] at hnone
  obtain ⟨category, hcategory⟩ := Option.isSome_iff_exists.1 (hnames node.kind d hd hshape)
  have hcontent : v.content? node.kind = some category := by
    rw [content?, hd, Option.bind_some, hcategory]
  refine ⟨category, hcontent, ?_⟩
  have hat : tree.at? (path.child i) = some child := by
    rw [Node.at?_child, hnode, Option.bind_some, hchild]
  apply (misplacements_eq_nil _).1 (h.violations_eq_nil hat).1
  rw [above?_child hnode, Option.bind_some, hcontent]

/-- All kinds in an accepted tree are defined if that of its top node is. -/
theorem Accepts.defined (h : v.Accepts tree) (hnames : v.registry.NamesContent)
    (htop : (v.registry.kind? tree.kind).isSome) {path : Path} {node : Node}
    (hnode : tree.at? path = some node) : (v.registry.kind? node.kind).isSome := by
  refine Node.at?_induction (P := fun _ node => (v.registry.kind? node.kind).isSome) htop ?_ hnode
  intro path node i child hnode hdef hchild
  obtain ⟨_, _, _, hchilddef⟩ := h.child hnames hnode hchild hdef
  exact hchilddef

/-! ### Growth of the registry -/

/-- A node of a defined kind has no violation that it did not have in a smaller registry. -/
theorem violations_grows {r r' : Registry} (hgrows : r.Grows r') {options : ValidatorOptions}
    {above : Option Node} {node : Node} (hdef : (r.kind? node.kind).isSome)
    (habove : ∀ holder, above = some holder → (r.kind? holder.kind).isSome)
    (h : (Validator.mk r options).violations above node = []) :
    (Validator.mk r' options).violations above node = [] := by
  obtain ⟨d, hd⟩ := Option.isSome_iff_exists.1 hdef
  have hd' := hgrows.kind? hd
  have hcontent : (above.bind fun holder => (Validator.mk r' options).content? holder.kind) =
      above.bind fun holder => (Validator.mk r options).content? holder.kind := by
    refine Option.bind_congr fun holder hholder => ?_
    obtain ⟨d, hd⟩ := Option.isSome_iff_exists.1 (habove holder hholder)
    simp only [content?, hd, hgrows.kind? hd]
  simp only [violations, List.append_eq_nil_iff] at h ⊢
  obtain ⟨⟨hplace, hshape⟩, hattributes⟩ := h
  refine ⟨⟨?_, ?_⟩, ?_⟩
  · cases hc : above.bind fun holder => (Validator.mk r options).content? holder.kind with
    | none => simp only [misplacements, hcontent, hc]
    | some category =>
      have hlegal := (misplacements_eq_nil hc).1 hplace
      refine (misplacements_eq_nil (hcontent.trans hc)).2 ⟨hgrows.belongs hlegal.1, ?_⟩
      exact Option.isSome_iff_exists.2 ⟨d, hd'⟩
  · simpa only [misshapes_eq, hd, hd'] using hshape
  · simpa only [badAttributes_eq, hd, hd'] using hattributes

/-- An accepted tree is still accepted when the registry has grown. -/
theorem Accepts.grows {r r' : Registry} (hgrows : r.Grows r') {options : ValidatorOptions}
    (hnames : r.NamesContent) (htop : (r.kind? tree.kind).isSome)
    (h : (Validator.mk r options).Accepts tree) : (Validator.mk r' options).Accepts tree := by
  intro path node hnode
  have hdefined : ∀ {p n}, tree.at? p = some n → (r.kind? n.kind).isSome := h.defined hnames htop
  apply violations_grows hgrows (hdefined hnode) ?_ (h path node hnode)
  intro holder hholder
  rw [Node.above?] at hholder
  split at hholder
  · cases hholder
  · exact hdefined hholder

end Validator

/-- A valid tree stays valid, whatever is added to the registry and whether or not it succeeds. -/
theorem validate_after (r : Registry) (hr : r.Reachable) (hnames : r.NamesContent) (tree : Node)
    (htop : (r.kind? tree.kind).isSome) (options : ValidatorOptions) (history : List Mutation)
    (hvalid : ∃ report, (Validator.mk r options).validate tree = .ok report ∧ report.valid) :
    ∃ report, (Validator.mk (r.after history) options).validate tree = .ok report ∧ report.valid := by
  have hgrows : r.Grows (r.after history) := (Registry.steps_after history r).grows
  obtain ⟨haccepts, hrefs⟩ := (Validator.validate_valid_iff hr.wellFormed).1 hvalid
  refine (Validator.validate_valid_iff (hr.after history).wellFormed).2 ⟨?_, hrefs⟩
  exact haccepts.grows hgrows hnames htop

/-- A paragraph with a reference to a definition, before and after verse becomes text and a refused
redefinition of paragraphs. -/
theorem validate_after_verse :
    let tree : Node := .parent .root
      [.parent .paragraph [.literal .text "a",
        .parent (.linkReference ⟨⟨"x", none⟩, .shortcut⟩) [.literal .text "b"]],
        .leaf (.definition ⟨"x", none⟩ ⟨"https://example.org", none⟩)]
    let history : List Mutation :=
      [.defineCategory ⟨"verse"⟩ [], .defineCategory Category.phrasing [⟨"verse"⟩],
        .register ⟨"verse"⟩ "stanza", .define (KindDef.leaf "paragraph")]
    Registry.baseline.Reachable ∧ Registry.baseline.NamesContent ∧
      (Registry.baseline.kind? tree.kind).isSome ∧
      (Validator.mk Registry.baseline {}).validate tree = .ok ⟨true, []⟩ ∧
      ∃ report, (Validator.mk (Registry.baseline.after history) {}).validate tree = .ok report ∧
        report.valid := by
  intro tree history
  have hreach := Registry.reachable_baseline
  have hnames := Registry.namesContent_baseline
  have htop : (Registry.baseline.kind? tree.kind).isSome := by decide +kernel
  have hvalid : (Validator.mk Registry.baseline {}).validate tree = .ok ⟨true, []⟩ :=
    Report.eq_ok_of_toOption (by decide +kernel)
  exact ⟨hreach, hnames, htop, hvalid,
    validate_after _ hreach hnames tree htop {} history ⟨_, hvalid, rfl⟩⟩

end WikiDoc
