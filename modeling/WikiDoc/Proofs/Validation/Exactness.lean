import Mathlib.Data.List.Basic
import WikiDoc.Proofs.Registry.Closure
import WikiDoc.Proofs.Validation.Trace

/-!
What a validation finds, said without the validator.

The violations of a node follow from the registry, the node and the node above it alone
(`violations`): whether it belongs where it stands, whether it has the shape of its kind, and what is
wrong with its attributes, rule by rule. The validator reports exactly these, site by site in document order
(`validate_eq`), as long as the registry refers to defined categories only, which every registry does
that additions lead to.
-/

namespace WikiDoc

namespace Trace

/-- The trace of a validation that the registry does not stop, with its findings. -/
def Finds (trace : Trace) (found : List Finding) : Prop := trace.fault = none ∧ trace.findings = found

theorem finds_empty : Trace.empty.Finds [] := ⟨rfl, rfl⟩

theorem finds_ofFindings (findings : List Finding) : (Trace.ofFindings findings).Finds findings :=
  ⟨rfl, findings_ofFindings findings⟩

theorem Finds.append {a b : Trace} {fs gs : List Finding} (ha : a.Finds fs) (hb : b.Finds gs) :
    (a ++ b).Finds (fs ++ gs) := by
  rw [append_of_fault_none ha.1]
  refine ⟨hb.1, ?_⟩
  rw [findings, List.filterMap_append, ← findings, ← findings, ha.2, hb.2]

end Trace

/-- A result without an error, computed as an option. -/
theorem Report.eq_ok_of_toOption {result : Except RegistryError Report} {report : Report}
    (h : result.toOption = some report) : result = .ok report := by
  cases result with
  | error error => cases h
  | ok report => cases h; rfl

namespace Validator

/-! ### The violations of a node -/

open Classical in
/-- What is wrong with where a node stands: the node above asks for a category, and the kind does not
belong there or has no definition. -/
noncomputable def misplacements (v : Validator) (above : Option Node) (node : Node) :
    List Violation :=
  match above.bind fun holder => v.content? holder.kind with
  | none => []
  | some category =>
    if v.registry.Belongs category node.kind ∧ (v.registry.kind? node.kind).isSome then []
    else [.misplaced category node.kind]

/-- The shape that a node turns out to have: with children it is a parent, with a value but no children a
literal, and otherwise what it declares itself to be. -/
def actualShape (node : Node) : Shape :=
  match node.children, node.value with
  | _ :: _, _ => .parent
  | [], some _ => .literal
  | [], none => node.shape

/-- What is wrong with the shape of a node of a defined kind. -/
def misshapes (v : Validator) (node : Node) : List Violation :=
  match v.registry.kind? node.kind with
  | none => []
  | some d => if actualShape node = d.shape then [] else [.shape d.shape (actualShape node)]

/-- What is wrong with the attribute that a rule is about: it is required and not there, or there and
rejected. -/
def ruleViolations (rule : AttributeRule) (attrs : Attributes) : List Violation :=
  match attrs.get? rule.name with
  | none => if rule.required then [.badAttribute (.missing rule.name)] else []
  | some value =>
    match rule.constraint.rejection? value with
    | none => []
    | some rejection => [.badAttribute (.invalid rule.name rejection)]

/-- What is wrong with the attributes of a node of a defined kind, if the options ask for it: what is wrong
by each rule in turn and then, unless the kind is open, the attributes that no rule is about. -/
def badAttributes (v : Validator) (node : Node) : List Violation :=
  match v.registry.kind? node.kind with
  | none => []
  | some d =>
    if v.options.checkAttributes then
      (d.rules.flatMap fun rule => ruleViolations rule node.attributes) ++
        if d.isOpen then []
        else (node.attributes.keys.filter fun name => decide (∀ rule ∈ d.rules, rule.name ≠ name)).map
          fun name => .badAttribute (.undeclared name)
    else []

/-- All violations of a node below another one. -/
noncomputable def violations (v : Validator) (above : Option Node) (node : Node) : List Violation :=
  v.misplacements above node ++ v.misshapes node ++ v.badAttributes node

/-- The findings at a site. -/
noncomputable def siteFindings (v : Validator) (s : Site) : List Finding :=
  (v.violations s.above s.node).map fun violation => ⟨s.path, violation⟩

/-- The findings at a path of a tree. -/
noncomputable def findingsAt (v : Validator) (tree : Node) (path : Path) : List Finding :=
  match tree.at? path with
  | none => []
  | some node => (v.violations (tree.above? path) node).map fun violation => ⟨path, violation⟩

/-! ### The validator reports them -/

variable {v : Validator}

theorem actualShape_eq (node : Node) : actualShape node = node.observedShape := by
  unfold actualShape Node.observedShape
  cases node.children with
  | cons child rest => rfl
  | nil => cases node.value <;> rfl

theorem misshapes_eq (node : Node) : v.misshapes node = match v.registry.kind? node.kind with
    | none => []
    | some d =>
      if node.observedShape = d.shape then [] else [.shape d.shape node.observedShape] := by
  rw [misshapes, actualShape_eq]

theorem ruleViolations_eq (rule : AttributeRule) (attrs : Attributes) :
    ruleViolations rule attrs = ((rule.problem? attrs).toList).map .badAttribute := by
  unfold ruleViolations AttributeRule.problem?
  cases attrs.get? rule.name with
  | none => cases rule.required <;> rfl
  | some value =>
    simp only
    cases rule.constraint.rejection? value <;> rfl

theorem undeclaredNames_eq (rules : List AttributeRule) (attrs : Attributes) :
    (attrs.keys.filter fun name => decide (∀ rule ∈ rules, rule.name ≠ name)) =
      undeclaredNames rules attrs := by
  rw [undeclaredNames]
  apply List.filter_congr
  intro name _
  rw [Bool.eq_iff_iff]
  simp

/-- The attributes of a node are wrong where the rules of its kind have problems with them. -/
theorem badAttributes_eq (node : Node) : v.badAttributes node = match v.registry.kind? node.kind with
    | none => []
    | some d =>
      if v.options.checkAttributes then (d.problems node.attributes).map .badAttribute else [] := by
  rw [badAttributes]
  cases v.registry.kind? node.kind with
  | none => rfl
  | some d =>
    have hrules : (d.rules.flatMap fun rule => ruleViolations rule node.attributes) =
        (d.rules.filterMap (·.problem? node.attributes)).map .badAttribute := by
      simp only [ruleViolations_eq, List.filterMap_eq_flatMap_toList, List.map_flatMap]
    simp only [hrules, undeclaredNames_eq, KindDef.problems, attributeProblems, List.map_append]
    cases d.isOpen with
    | true => rfl
    | false =>
      simp only [Bool.false_eq_true, if_false, List.map_map]
      rfl

theorem finds_atNode (node : Node) (path : Path) : (v.atNode node path).Finds
    ((v.misshapes node ++ v.badAttributes node).map fun violation => ⟨path, violation⟩) := by
  rw [atNode, misshapes_eq, badAttributes_eq]
  cases v.registry.kind? node.kind with
  | none => exact ⟨rfl, rfl⟩
  | some d => exact Trace.finds_ofFindings _

/-- The category that a definition asks for is defined, so that the search in it succeeds. -/
theorem isLegal_ok (hr : v.registry.WellFormed) {holder : String} {category : Category}
    (hc : v.content? holder = some category) (kind : String) : ∃ legal, v.isLegal category kind = .ok legal ∧
      (legal = true ↔ v.registry.Belongs category kind ∧ (v.registry.kind? kind).isSome) := by
  obtain ⟨d, hd, hcontent⟩ := Option.bind_eq_some_iff.1 hc
  have hdefined : v.registry.hasCategory category := by
    apply hr.kinds holder d hd
    rw [KindDef.categories, hcontent]
    exact List.mem_append_left _ (List.mem_singleton_self category)
  obtain ⟨found, hfound, hiff⟩ := Registry.contains_ok hr hdefined kind
  refine ⟨found && (v.registry.kind? kind).isSome, ?_, ?_⟩
  · rw [isLegal, hfound]; rfl
  · rw [Bool.and_eq_true, hiff]

theorem finds_atSlot (hr : v.registry.WellFormed) (holder node : Node) (path : Path) :
    (v.atSlot (v.content? holder.kind) node.kind path).Finds
      ((v.misplacements (some holder) node).map fun violation => ⟨path, violation⟩) := by
  rw [misplacements, Option.bind_some]
  cases hc : v.content? holder.kind with
  | none => exact Trace.finds_empty
  | some category =>
    obtain ⟨legal, hlegal, hiff⟩ := isLegal_ok hr hc node.kind
    simp only [atSlot, hlegal]
    cases legal with
    | true => rw [if_pos (hiff.1 rfl)]; exact Trace.finds_empty
    | false =>
      rw [if_neg fun h => Bool.false_ne_true (hiff.2 h)]
      exact Trace.finds_ofFindings _

/-- The trace of a tree has the violations of its sites, those of where its top node stands apart. -/
theorem finds_traceTree (hr : v.registry.WellFormed) (node : Node) (above : Option Node) (path : Path) :
    ∃ below, (v.traceTree node path).Finds below ∧
      (node.sitesFrom above path).flatMap v.siteFindings =
        ((v.misplacements above node).map fun violation => ⟨path, violation⟩) ++ below := by
  -- the children from the one at an index on, each after the check of its own slot
  induction node using Node.forest_induction (Q := fun children => ∀ (holder : Node) path index,
      (v.traceForest (v.content? holder.kind) children path index).Finds
        ((Node.sitesBelow children holder path index).flatMap v.siteFindings))
    generalizing above path with
  | nil => rw [traceForest, Node.sitesBelow]; exact Trace.finds_empty
  | cons child rest ihchild ihrest holder path index =>
    obtain ⟨below, hbelow, hsites⟩ := ihchild (some holder) (path.child index)
    rw [traceForest, Node.sitesBelow, List.flatMap_append, hsites, List.append_assoc]
    refine (finds_atSlot hr holder child _).append (hbelow.append ?_)
    exact ihrest holder path (index + 1)
  | step node ihchildren =>
    refine ⟨_, traceTree_eq node path ▸ (finds_atNode node path).append (ihchildren node path 0), ?_⟩
    rw [Node.sitesFrom_eq, List.flatMap_cons, siteFindings, violations]
    simp only [List.map_append, List.append_assoc]

/-- The findings about references, if the options ask for them. -/
def referenceFindings? (v : Validator) (tree : Node) : List Finding :=
  if v.options.checkReferences then referenceFindings v.options.identifierMatching tree else []

/-- A validation succeeds and reports the findings of all sites, then those about references. -/
theorem validate_eq (hr : v.registry.WellFormed) (tree : Node) : v.validate tree =
    .ok (Report.ofFindings (tree.sites.flatMap v.siteFindings ++ v.referenceFindings? tree)) := by
  obtain ⟨below, hbelow, hsites⟩ := finds_traceTree hr tree none Path.root
  have hrefs : (if v.options.checkReferences then
      Trace.ofFindings (referenceFindings v.options.identifierMatching tree) else .empty).Finds
        (v.referenceFindings? tree) := by
    rw [referenceFindings?]
    split
    · exact Trace.finds_ofFindings _
    · exact Trace.finds_empty
  obtain ⟨hfault, hfindings⟩ : (v.trace tree).Finds _ := hbelow.append hrefs
  rw [Node.sites, hsites, validate, run_eq_trace]
  simp only [hfault, hfindings]
  rfl

/-! ### What each finding is about -/

theorem mem_misplacements {above : Option Node} {node : Node} {violation : Violation}
    (h : violation ∈ v.misplacements above node) :
    ∃ category, violation = .misplaced category node.kind := by
  unfold misplacements at h
  split at h
  · cases h
  · split at h
    · cases h
    · exact ⟨_, List.mem_singleton.1 h⟩

theorem mem_misshapes {node : Node} {violation : Violation} (h : violation ∈ v.misshapes node) :
    ∃ expected, violation = .shape expected node.observedShape := by
  rw [misshapes_eq] at h
  split at h
  · cases h
  · split at h
    · cases h
    · exact ⟨_, List.mem_singleton.1 h⟩

theorem mem_badAttributes {node : Node} {violation : Violation} :
    violation ∈ v.badAttributes node ↔ v.options.checkAttributes = true ∧
      ∃ d, v.registry.kind? node.kind = some d ∧
        ∃ problem ∈ d.problems node.attributes, violation = .badAttribute problem := by
  rw [badAttributes_eq]
  cases v.registry.kind? node.kind with
  | none => simp
  | some d =>
    cases v.options.checkAttributes with
    | false => simp
    | true => simp [eq_comm]

theorem isReference_of_mem_siteFindings {s : Site} {f : Finding} (hf : f ∈ v.siteFindings s) :
    f.violation.isReference = false := by
  obtain ⟨violation, hv, rfl⟩ := List.mem_map.1 hf
  rw [violations, List.mem_append, List.mem_append] at hv
  rcases hv with (hv | hv) | hv
  · obtain ⟨category, rfl⟩ := mem_misplacements hv; rfl
  · obtain ⟨expected, rfl⟩ := mem_misshapes hv; rfl
  · obtain ⟨_, d, _, problem, _, rfl⟩ := mem_badAttributes.1 hv; rfl

theorem isReference_of_mem_referenceFindings? {tree : Node} {f : Finding}
    (hf : f ∈ v.referenceFindings? tree) : f.violation.isReference = true := by
  rw [referenceFindings?] at hf
  split at hf
  · exact isReference_of_mem_referenceFindings hf
  · cases hf

/-- A finding that is not about a reference is a violation of the node that its path leads to. -/
theorem mem_findings_iff (hr : v.registry.WellFormed) {tree : Node} {report : Report}
    (h : v.validate tree = .ok report) {path : Path} {violation : Violation}
    (hkind : violation.isReference = false) : ⟨path, violation⟩ ∈ report.findings ↔
      ∃ node, tree.at? path = some node ∧ violation ∈ v.violations (tree.above? path) node := by
  rw [validate_eq hr] at h
  cases h
  rw [Report.ofFindings, List.mem_append, List.mem_flatMap]
  constructor
  · rintro (⟨s, hs, hf⟩ | hf)
    · obtain ⟨hnode, habove⟩ := (Node.mem_sites tree s).1 hs
      obtain ⟨_, hv, hpair⟩ := List.mem_map.1 hf
      cases hpair
      exact ⟨s.node, hnode, habove ▸ hv⟩
    · exact absurd (isReference_of_mem_referenceFindings? hf) (by simp [hkind])
  · rintro ⟨node, hnode, hv⟩
    refine Or.inl ⟨⟨path, node, tree.above? path⟩, (Node.mem_sites tree _).2 ⟨hnode, rfl⟩, ?_⟩
    exact List.mem_map.2 ⟨violation, hv, rfl⟩

/-- The findings about attributes are the problems of the nodes with the rules of their kinds. -/
theorem badAttribute_mem_findings (hr : v.registry.WellFormed)
    (hcheck : v.options.checkAttributes = true) {tree : Node} {report : Report}
    (h : v.validate tree = .ok report) (path : Path) (problem : AttributeProblem) :
    ⟨path, .badAttribute problem⟩ ∈ report.findings ↔ ∃ node d, tree.at? path = some node ∧
      v.registry.kind? node.kind = some d ∧ problem ∈ d.problems node.attributes := by
  rw [mem_findings_iff hr h rfl]
  constructor
  · rintro ⟨node, hnode, hv⟩
    rw [violations, List.mem_append, List.mem_append] at hv
    rcases hv with (hv | hv) | hv
    · obtain ⟨category, hne⟩ := mem_misplacements hv; cases hne
    · obtain ⟨expected, hne⟩ := mem_misshapes hv; cases hne
    · obtain ⟨_, d, hd, _, hproblem, heq⟩ := mem_badAttributes.1 hv
      cases heq
      exact ⟨node, d, hnode, hd, hproblem⟩
  · rintro ⟨node, d, hnode, hd, hproblem⟩
    refine ⟨node, hnode, List.mem_append_right _ ?_⟩
    exact mem_badAttributes.2 ⟨hcheck, d, hd, problem, hproblem, rfl⟩

/-- The sites of a tree have the findings of its paths. -/
theorem flatMap_siteFindings (tree : Node) :
    tree.sites.flatMap v.siteFindings = tree.paths.flatMap (v.findingsAt tree) := by
  rw [Node.paths, List.flatMap_map]
  apply List.flatMap_congr
  intro s hs
  obtain ⟨hnode, habove⟩ := (Node.mem_sites tree s).1 hs
  rw [findingsAt, hnode, siteFindings, habove]

end Validator

/-- For every registry that additions lead to, a validation succeeds, and its findings that are not
about references are those of all paths of the tree in increasing order. -/
theorem nodeFindings_exact (r : Registry) (hr : r.Reachable) (options : ValidatorOptions)
    (tree : Node) : ∃ report, (Validator.mk r options).validate tree = .ok report ∧
      tree.paths.Pairwise (fun p q => compare p q = .lt) ∧
      (∀ path, path ∈ tree.paths ↔ (tree.at? path).isSome) ∧
      report.findings.filter (fun f => !f.violation.isReference) =
        tree.paths.flatMap ((Validator.mk r options).findingsAt tree) := by
  refine ⟨_, Validator.validate_eq hr.wellFormed tree, tree.paths_increasing, tree.mem_paths, ?_⟩
  rw [Report.ofFindings, List.filter_append, ← Validator.flatMap_siteFindings]
  have hsites : (tree.sites.flatMap (Validator.mk r options).siteFindings).filter
      (fun f => !f.violation.isReference) = tree.sites.flatMap (Validator.mk r options).siteFindings := by
    rw [List.filter_eq_self]
    intro f hf
    obtain ⟨s, _, hf⟩ := List.mem_flatMap.1 hf
    rw [Validator.isReference_of_mem_siteFindings hf]; rfl
  have hrefs : ((Validator.mk r options).referenceFindings? tree).filter
      (fun f => !f.violation.isReference) = [] := by
    rw [List.filter_eq_nil_iff]
    intro f hf
    rw [Validator.isReference_of_mem_referenceFindings? hf]
    exact Bool.false_ne_true
  rw [hsites, hrefs, List.append_nil]

/-- A poem was registered into blocks and never defined, so that it is misplaced; what it holds may stand
there, but is checked by itself. Behind it stands a node of a built-in kind that has a value instead of
children and an attribute that the kind does not declare, and a reference without a definition. -/
theorem nodeFindings_exact_undefined_poem :
    let r := Registry.baseline.after [.register Category.block "poem"]
    let v : Validator := ⟨r, {}⟩
    let poem : Node := .custom { origin := "wrapper", kind := "poem", shape := .parent }
      [.parent (.heading 99) [], .parent .blockquote [.parent .tableCell []]]
    let attrs : Attributes := .ofList [("depth", .int 2)]
    let verse : Node := .custom ⟨"wrapper", "paragraph", .leaf, attrs, some "a"⟩ []
    let reference : Node := .parent .paragraph [.leaf (.footnoteReference ⟨⟨"a", none⟩, .full⟩)]
    let tree : Node := .parent .root [poem, verse, reference]
    let found : List Finding := [⟨⟨[0]⟩, .misplaced .flow "poem"⟩,
      ⟨⟨[0, 0]⟩, .badAttribute (.invalid "depth" (.aboveMaximum 99 6))⟩,
      ⟨⟨[0, 1, 0]⟩, .misplaced .flow "tableCell"⟩, ⟨⟨[1]⟩, .shape .parent .literal⟩,
      ⟨⟨[1]⟩, .badAttribute (.undeclared "depth")⟩]
    r.Reachable ∧ v.validate tree = .ok ⟨false, found ++ [⟨⟨[2, 0]⟩, .unresolved "a"⟩]⟩ ∧
      tree.paths.flatMap (v.findingsAt tree) = found ∧
      ∃ report, v.validate tree = .ok report ∧
        tree.paths.Pairwise (fun p q => compare p q = .lt) ∧
        (∀ path, path ∈ tree.paths ↔ (tree.at? path).isSome) ∧
        report.findings.filter (fun f => !f.violation.isReference) =
          tree.paths.flatMap (v.findingsAt tree) := by
  intro r v poem attrs verse reference tree found
  have hr : r.Reachable := ⟨_, Or.inr rfl⟩
  have hvalidate : v.validate tree = .ok ⟨false, found ++ [⟨⟨[2, 0]⟩, .unresolved "a"⟩]⟩ := by
    decide +kernel
  have hexact := nodeFindings_exact r hr {} tree
  refine ⟨hr, hvalidate, ?_, hexact⟩
  obtain ⟨report, hreport, -, -, hfindings⟩ := hexact
  cases hvalidate.symm.trans hreport
  exact hfindings.symm

end WikiDoc
