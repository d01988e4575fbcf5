import WikiDoc.Kind.Extension
import WikiDoc.Proofs.Kind.Construction
import WikiDoc.Proofs.Registry.Baseline
import WikiDoc.Proofs.Validation.Resolution

/-!
Built nodes satisfy the validator.

The findings of a report at a path are those of the node there and of its reference (`findings_at`). A
node that was built of parts has the shape of its kind and obeys its rules, since it carries the parts
and these were checked. So the only finding at such a node can be that it is a reference without exactly
one definition, which is not looked at when the node is built.
-/

namespace WikiDoc

/-! ### The findings at a path -/

theorem Node.nodup_paths (tree : Node) : tree.paths.Nodup := by
  refine tree.paths_increasing.imp fun {p q} hlt heq => ?_
  subst heq
  change Path.compareIndices p.indices p.indices = .lt at hlt
  rw [← List.append_nil p.indices, Path.compareIndices_append] at hlt
  cases hlt

/-- Of findings that stand at different paths, those at one path. -/
theorem filter_flatMap_at {paths : List Path} {found : Path → List Finding} (hnodup : paths.Nodup)
    (hfound : ∀ p, ∀ f ∈ found p, f.path = p) (path : Path) :
    (paths.flatMap found).filter (fun f => decide (f.path = path)) =
      if path ∈ paths then found path else [] := by
  induction paths with
  | nil => rfl
  | cons p rest ih =>
    obtain ⟨hp, hrest⟩ := List.nodup_cons.1 hnodup
    rw [List.flatMap_cons, List.filter_append, ih hrest]
    by_cases heq : p = path
    · subst heq
      have hall : (found p).filter (fun f => decide (f.path = p)) = found p :=
        List.filter_eq_self.2 fun f hf => decide_eq_true (hfound p f hf)
      rw [hall, if_neg hp, List.append_nil, if_pos List.mem_cons_self]
    · have hnone : (found p).filter (fun f => decide (f.path = path)) = [] :=
        List.filter_eq_nil_iff.2 fun f hf => by simpa [hfound p f hf] using heq
      have hmem : path ∈ p :: rest ↔ path ∈ rest := by simp [Ne.symm heq]
      simp only [hnone, List.nil_append, hmem]

theorem Validator.path_of_mem_findingsAt {v : Validator} {tree : Node} {path : Path} {f : Finding}
    (hf : f ∈ v.findingsAt tree path) : f.path = path := by
  unfold findingsAt at hf
  split at hf
  · cases hf
  · obtain ⟨violation, -, rfl⟩ := List.mem_map.1 hf
    rfl

/-- The findings at a path of the tree are those of its node and of its reference. -/
theorem Validator.findings_at {v : Validator} (hr : v.registry.WellFormed) {tree : Node} {path : Path}
    (hpath : path ∈ tree.paths) : ∃ report, v.validate tree = .ok report ∧
      report.findings.filter (fun f => decide (f.path = path)) = v.findingsAt tree path ++
        if v.options.checkReferences then referenceFindingsAt v.options.identifierMatching tree path
        else [] := by
  refine ⟨_, validate_eq hr tree, ?_⟩
  rw [Report.ofFindings, List.filter_append, flatMap_siteFindings,
    filter_flatMap_at tree.nodup_paths fun p f hf => path_of_mem_findingsAt hf, if_pos hpath,
    referenceFindings?]
  split
  · rw [referenceFindings_eq_flatMap,
      filter_flatMap_at tree.nodup_paths fun p f hf => (isSome_reference?_of_mem hf).1, if_pos hpath]
  · rfl

/-! ### Built nodes -/

/-- What a built-in node declares is what is seen of it. -/
theorem Node.observedShape_of_builtIn {node : Node} (h : node.origin? = none) :
    node.observedShape = node.shape := by
  cases node with
  | parent tag below => simp [observedShape, children, value, shape]
  | literal tag value => rfl
  | leaf tag => rfl
  | custom info children => cases h

/-- No table must have alignments. -/
theorem Baseline.required_of_table : ∀ d ∈ kinds, d.kind = "table" →
    ∀ rule ∈ d.rules, rule.required = false := by decide

/-- A node that carries parts without a problem has none itself. -/
theorem Node.Carries.problems_eq_nil {node : Node} {d : KindDef} (hd : d ∈ Baseline.kinds)
    {parts : Parts} (hcarries : node.Carries d.kind d.shape parts)
    (h : d.problems parts.attributes = []) : d.problems node.attributes = [] := by
  refine attributeProblems_eq_nil_of_kept h fun name => ?_
  rw [hcarries.attributes, hcarries.kind, keptAttribute]
  split
  · next htable =>
    refine Or.inr ⟨rfl, fun rule hrule _ => ?_⟩
    exact Baseline.required_of_table d hd htable.1 rule hrule
  · exact Or.inl rfl

/-- A node with the shape of its kind that obeys its rules has no violation as a top node. -/
theorem Validator.findingsAt_root {v : Validator} {node : Node} {d : KindDef}
    (hd : v.registry.kind? node.kind = some d) (hshape : node.observedShape = d.shape)
    (hproblems : d.problems node.attributes = []) : v.findingsAt node Path.root = [] := by
  have hviolations : v.violations none node = [] := by
    simp [violations, misplacements, misshapes_eq, badAttributes_eq, hd, hshape, hproblems]
  have habove : node.above? Path.root = none := rfl
  simp only [findingsAt, Node.at?_root, habove, hviolations, List.map_nil]

/-- Whatever is added to the baseline, a node that is built of a built-in kind loses nothing of its
parts, but for an empty list of alignments of a table. It has the shape of the kind and obeys its rules,
so that a validation has no finding at it, unless references are checked and it is one without exactly
one definition. And it can be built again from its own parts. -/
theorem construct_keeps_parts (history : List Mutation) (kind : String) (d : KindDef)
    (hd : Registry.baseline.kind? kind = some d) (parts : Parts) (node : Node)
    (h : (Registry.baseline.after history).construct kind parts = .ok node) :
    (Registry.baseline.after history).kind? kind = some d ∧ node.kind = kind ∧
    node.children = parts.children ∧ node.value = parts.value ∧
    (∀ name, node.attributes.get? name =
      if kind = "table" ∧ name = "align" ∧ parts.attributes.get? name = some (.list []) then none
      else parts.attributes.get? name) ∧
    d.problems node.attributes = [] ∧ node.observedShape = d.shape ∧
    (∀ options : ValidatorOptions, ∃ report,
      (Validator.mk (Registry.baseline.after history) options).validate node = .ok report ∧
      report.findings.filter (fun f => decide (f.path = Path.root)) =
        if options.checkReferences then
          referenceFindingsAt options.identifierMatching node Path.root
        else []) ∧
    (Registry.baseline.after history).construct kind node.parts = .ok node := by
  have hgrows : Registry.baseline.Grows (Registry.baseline.after history) :=
    (Registry.steps_after history Registry.baseline).grows
  have hwell : (Registry.baseline.after history).WellFormed :=
    (Registry.reachable_baseline.after history).wellFormed
  have hd' : (Registry.baseline.after history).kind? kind = some d := hgrows.kind? hd
  obtain ⟨hmem, rfl⟩ := Registry.kind?_baseline.1 hd
  rw [Registry.construct, hd'] at h
  have hcarries := Node.carries_of_construct hmem h
  have hproblems := hcarries.problems_eq_nil hmem (KindDef.checked_of_construct h).2
  have hshape : node.observedShape = d.shape :=
    (Node.observedShape_of_builtIn hcarries.origin).trans hcarries.shape
  have hagain : d.construct node.parts = .ok node := by
    -- a built-in node is rebuilt by the definition of its kind, and there is one for each kind
    obtain ⟨e, he, hkind, hconstruct⟩ := construct_parts hcarries.origin
    have hsame : Registry.baseline.kind? d.kind = some e :=
      Registry.kind?_baseline.2 ⟨he, hkind.trans hcarries.kind⟩
    obtain rfl : d = e := Option.some.inj (hd.symm.trans hsame)
    rw [hconstruct, KindDef.failure?, hproblems]
    rfl
  refine ⟨hd', hcarries.kind, hcarries.children, hcarries.value, ?_, hproblems, hshape, ?_, ?_⟩
  · intro name
    rw [hcarries.attributes, hcarries.kind, keptAttribute]
  · intro options
    have hroot : Path.root ∈ node.paths := (node.mem_paths _).2 (by simp [Node.at?_root])
    obtain ⟨report, hreport, hfindings⟩ := Validator.findings_at (v := ⟨_, options⟩) hwell hroot
    refine ⟨report, hreport, hfindings.trans ?_⟩
    rw [Validator.findingsAt_root (hcarries.kind ▸ hd') hshape hproblems, List.nil_append]
  · rw [Registry.construct, hd']
    exact hagain

/-- A table with an empty list of alignments and a row in it, after poems were added. -/
theorem construct_keeps_parts_table :
    let r := Registry.baseline.after [.define Extension.poemDef]
    let row : Node := .parent .tableRow []
    let parts : Parts := { attributes := .ofList [("align", .list [])], children := [row] }
    let node : Node := .parent (.table []) [row]
    ∃ d, Registry.baseline.kind? "table" = some d ∧ r.construct "table" parts = .ok node ∧
      parts.attributes.get? "align" = some (.list []) ∧ node.attributes.get? "align" = none ∧
      d.problems node.attributes = [] ∧ node.observedShape = d.shape ∧
      (∃ report, (Validator.mk r {}).validate node = .ok report ∧
        report.findings.filter (fun f => decide (f.path = Path.root)) = []) ∧
      r.construct "table" node.parts = .ok node := by
  intro r row parts node
  obtain ⟨d, hd⟩ := Option.isSome_iff_exists.1
    (show (Registry.baseline.kind? "table").isSome by decide +kernel)
  have hbuilt : r.construct "table" parts = .ok node := by rfl
  obtain ⟨-, -, -, -, hattributes, hproblems, hshape, hvalidate, hagain⟩ :=
    construct_keeps_parts _ "table" d hd parts node hbuilt
  have halign : parts.attributes.get? "align" = some (.list []) := by decide
  refine ⟨d, hd, hbuilt, halign, ?_, hproblems, hshape, ?_, hagain⟩
  · rw [hattributes, if_pos ⟨rfl, rfl, halign⟩]
  · obtain ⟨report, hreport, hnone⟩ := hvalidate {}
    exact ⟨report, hreport, hnone.trans rfl⟩

/-- A footnote reference is built without a look at the definitions; a validation of it alone, with the
options that are the default, finds that it has none. -/
theorem construct_unresolved_reference :
    let parts : Parts :=
      { attributes := .ofList [("identifier", .text "x"), ("referenceType", .text "shortcut")] }
    let node : Node := .leaf (.footnoteReference ⟨⟨"x", none⟩, .shortcut⟩)
    Registry.baseline.construct "footnoteReference" parts = .ok node ∧
      (Validator.mk .baseline {}).validate node = .ok ⟨false, [⟨Path.root, .unresolved "x"⟩]⟩ := by
  intro parts node
  have hbuilt : Registry.baseline.construct "footnoteReference" parts = .ok node := by rfl
  exact ⟨hbuilt, by decide +kernel⟩

end WikiDoc
