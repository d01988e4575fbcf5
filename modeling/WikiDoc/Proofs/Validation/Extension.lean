import WikiDoc.Proofs.Registry.Effect

/-!
What the report on a tree becomes when the registry is extended.

As long as no kind of the tree gets a definition, a node keeps the shape and the rules that it is held
to, and each category has no fewer members than before. So the only thing that can happen to a report is
that a kind which stood in the wrong place has come to belong there: such findings go away
(`Violation.settled`), and all others stay, in the same order (`validate_extended`). Additions that are
about other kinds, and about no category, do not even do that: the report is the same, and so is what can
be built (`report_isolated`).
-/

namespace WikiDoc

/-- A kind stood in the wrong place, and the place has become right for it: the kind, which has a
definition, belongs to the category in the second registry and did not in the first. -/
def Violation.settled (before after : Registry) : Violation → Bool
  | .misplaced category kind =>
    decide (before.contains category kind ≠ .ok true) &&
      decide (after.contains category kind = .ok true) && (after.kind? kind).isSome
  | _ => false

variable {r r' : Registry} {options : ValidatorOptions}

theorem Violation.settled_misplaced (hr : r.WellFormed) (hr' : r'.WellFormed) {category : Category}
    {kind : String} : (misplaced category kind).settled r r' = true ↔
      ¬ r.Belongs category kind ∧ r'.Belongs category kind ∧ (r'.kind? kind).isSome := by
  rw [settled, Bool.and_eq_true, Bool.and_eq_true, decide_eq_true_iff, decide_eq_true_iff, Ne,
    Registry.contains_eq_true_iff hr, Registry.contains_eq_true_iff hr', and_assoc]

theorem Violation.settled_of_isReference {violation : Violation} (h : violation.isReference = true) :
    violation.settled r r' = false := by
  cases violation with
  | misplaced category kind => cases h
  | _ => rfl

namespace Validator

/-! ### The violations of a node in a registry that has grown -/

theorem content?_eq {kind : String} (h : r'.kind? kind = r.kind? kind) :
    (Validator.mk r' options).content? kind = (Validator.mk r options).content? kind := by
  rw [content?, content?, h]

/-- A node stands in the wrong place as before, unless that is settled. -/
theorem misplacements_extended (hgrows : r.Grows r') (hr : r.WellFormed) (hr' : r'.WellFormed)
    {above : Option Node} {node : Node} (hnode : r'.kind? node.kind = r.kind? node.kind)
    (habove : ∀ holder, above = some holder → r'.kind? holder.kind = r.kind? holder.kind) :
    (Validator.mk r' options).misplacements above node =
      ((Validator.mk r options).misplacements above node).filter fun violation =>
        !violation.settled r r' := by
  have hcontent : (above.bind fun holder => (Validator.mk r' options).content? holder.kind) =
      above.bind fun holder => (Validator.mk r options).content? holder.kind :=
    Option.bind_congr fun holder hholder => content?_eq (habove holder hholder)
  cases hc : above.bind fun holder => (Validator.mk r options).content? holder.kind with
  | none => simp only [misplacements, hcontent, hc, List.filter_nil]
  | some category =>
    have hsettled : (Violation.misplaced category node.kind).settled r r' = true ↔ _ :=
      Violation.settled_misplaced hr hr'
    simp only [misplacements, hcontent, hc]
    by_cases hbefore : r.Belongs category node.kind ∧ (r.kind? node.kind).isSome
    · have hafter : r'.Belongs category node.kind ∧ (r'.kind? node.kind).isSome :=
        ⟨hgrows.belongs hbefore.1, hnode ▸ hbefore.2⟩
      rw [if_pos hbefore, if_pos hafter, List.filter_nil]
    · rw [if_neg hbefore]
      by_cases hafter : r'.Belongs category node.kind ∧ (r'.kind? node.kind).isSome
      · have hgone := hsettled.2 ⟨fun hb => hbefore ⟨hb, hnode ▸ hafter.2⟩, hafter⟩
        rw [if_pos hafter, List.filter_cons_of_neg (by simp [hgone]), List.filter_nil]
      · have hstays : (Violation.misplaced category node.kind).settled r r' = false :=
          Bool.eq_false_iff.2 fun h => hafter (hsettled.1 h).2
        rw [if_neg hafter, List.filter_cons_of_pos (by simp [hstays]), List.filter_nil]

theorem misshapes_extended {node : Node} (hnode : r'.kind? node.kind = r.kind? node.kind) :
    (Validator.mk r' options).misshapes node =
      ((Validator.mk r options).misshapes node).filter fun violation => !violation.settled r r' := by
  rw [List.filter_eq_self.2, misshapes_eq, misshapes_eq, hnode]
  intro violation h
  obtain ⟨expected, rfl⟩ := mem_misshapes h
  rfl

theorem badAttributes_extended {node : Node} (hnode : r'.kind? node.kind = r.kind? node.kind) :
    (Validator.mk r' options).badAttributes node =
      ((Validator.mk r options).badAttributes node).filter fun violation =>
        !violation.settled r r' := by
  rw [List.filter_eq_self.2, badAttributes_eq, badAttributes_eq, hnode]
  intro violation h
  obtain ⟨-, d, -, problem, -, rfl⟩ := mem_badAttributes.1 h
  rfl

/-- A site has the findings that it had before, but for those that are settled. -/
theorem siteFindings_extended (hgrows : r.Grows r') (hr : r.WellFormed) (hr' : r'.WellFormed)
    {s : Site} (hnode : r'.kind? s.node.kind = r.kind? s.node.kind)
    (habove : ∀ holder, s.above = some holder → r'.kind? holder.kind = r.kind? holder.kind) :
    (Validator.mk r' options).siteFindings s =
      ((Validator.mk r options).siteFindings s).filter fun f => !f.violation.settled r r' := by
  rw [siteFindings, siteFindings, List.filter_map, violations, violations,
    misplacements_extended hgrows hr hr' hnode habove, misshapes_extended hnode,
    badAttributes_extended hnode, ← List.filter_append, ← List.filter_append]
  rfl

/-- The report on a tree whose kinds have the definitions that they had before: the same findings in the
same order, but for those that are settled. -/
theorem validate_extended (hgrows : r.Grows r') (hr : r.WellFormed) (hr' : r'.WellFormed) {tree : Node}
    (hkinds : ∀ kind ∈ tree.kinds, r'.kind? kind = r.kind? kind) {report : Report}
    (h : (Validator.mk r options).validate tree = .ok report) :
    (Validator.mk r' options).validate tree =
      .ok (.ofFindings (report.findings.filter fun f => !f.violation.settled r r')) := by
  have hsites : tree.sites.flatMap (Validator.mk r' options).siteFindings =
      (tree.sites.flatMap (Validator.mk r options).siteFindings).filter fun f =>
        !f.violation.settled r r' := by
    rw [List.filter_flatMap]
    refine List.flatMap_congr fun s hs => siteFindings_extended hgrows hr hr' ?_ ?_
    · exact hkinds _ (List.mem_map_of_mem hs)
    · exact fun holder habove => hkinds _ (Node.kind_above_mem_kinds hs habove)
  have hrefs : ((Validator.mk r options).referenceFindings? tree).filter
      (fun f => !f.violation.settled r r') = (Validator.mk r' options).referenceFindings? tree := by
    refine List.filter_eq_self.2 fun f hf => ?_
    rw [Violation.settled_of_isReference (isReference_of_mem_referenceFindings? hf)]
    rfl
  rw [validate_eq hr] at h
  cases h
  rw [validate_eq hr', hsites, ← hrefs, ← List.filter_append]
  rfl

end Validator

/-- Whatever is added to a registry, if no kind of the tree gets a definition by it, the report on the
tree has the findings that it had before, in the same order, without those about a kind that has a
definition and has come to belong to the category where it stands. -/
theorem findings_after (r : Registry) (hr : r.Reachable) (history : List Mutation)
    (options : ValidatorOptions) (tree : Node)
    (hkinds : ∀ kind ∈ tree.kinds, r.kind? kind = none → (r.after history).kind? kind = none) :
    ∃ report, (Validator.mk r options).validate tree = .ok report ∧
      (Validator.mk (r.after history) options).validate tree =
        .ok (.ofFindings (report.findings.filter fun f => !f.violation.settled r (r.after history))) := by
  have hgrows : r.Grows (r.after history) := (Registry.steps_after history r).grows
  have hreport := Validator.validate_eq (v := ⟨r, options⟩) hr.wellFormed tree
  refine ⟨_, hreport, ?_⟩
  exact Validator.validate_extended hgrows hr.wellFormed (hr.after history).wellFormed
    (fun kind hkind => hgrows.kind?_eq (hkinds kind hkind)) hreport

/-- Thematic breaks become text and table rows do through an include; a list item, an empty text and a
poem without a definition are reported as before. -/
theorem findings_after_rows :
    let poem : Node := .custom { origin := "wrapper", kind := "poem", shape := .parent } []
    let blank : Node := .custom { origin := "wrapper", kind := "text", shape := .leaf } []
    let tree : Node := .parent .root [.parent .paragraph
      [.leaf .thematicBreak, .parent .tableRow [], .parent (.listItem {}) [], blank], poem]
    let history : List Mutation := [.register .phrasing "thematicBreak",
      .defineCategory .staticPhrasing [.table], .define (KindDef.leaf "paragraph"),
      .register .flow "poem", .define Extension.marqueeDef]
    let r' := Registry.baseline.after history
    let kept : List Finding := [⟨⟨[0, 2]⟩, .misplaced .phrasing "listItem"⟩,
      ⟨⟨[0, 3]⟩, .shape .literal .leaf⟩, ⟨⟨[1]⟩, .misplaced .flow "poem"⟩]
    let findings : List Finding := [⟨⟨[0, 0]⟩, .misplaced .phrasing "thematicBreak"⟩,
      ⟨⟨[0, 1]⟩, .misplaced .phrasing "tableRow"⟩] ++ kept
    Registry.baseline.Reachable ∧
      (∀ kind ∈ tree.kinds, Registry.baseline.kind? kind = none → r'.kind? kind = none) ∧
      (Validator.mk Registry.baseline {}).validate tree = .ok ⟨false, findings⟩ ∧
      findings.filter (fun f => !f.violation.settled Registry.baseline r') = kept ∧
      (Validator.mk r' {}).validate tree = .ok ⟨false, kept⟩ := by
  intro poem blank tree history r' kept findings
  have hr := Registry.reachable_baseline
  have hkinds : ∀ kind ∈ tree.kinds, Registry.baseline.kind? kind = none → r'.kind? kind = none := by
    decide +kernel
  have hbefore : (Validator.mk Registry.baseline {}).validate tree = .ok ⟨false, findings⟩ :=
    Report.eq_ok_of_toOption (by decide +kernel)
  have hkept : findings.filter (fun f => !f.violation.settled Registry.baseline r') = kept := by
    decide +kernel
  obtain ⟨report, hreport, hafter⟩ := findings_after _ hr history {} tree hkinds
  obtain rfl : ⟨false, findings⟩ = report := Except.ok.inj (hbefore.symm.trans hreport)
  refine ⟨hr, hkinds, hbefore, hkept, ?_⟩
  rw [hafter, hkept]
  rfl

/-! ### Additions about other kinds -/

namespace Mutation

/-- The kind that an addition is about; to define a category is about none. -/
def subject? : Mutation → Option String
  | .defineCategory _ _ => none
  | .register _ kind => some kind
  | .define definition => some definition.kind

/-- What an addition contributes about a kind, it contributes about its subject. -/
theorem subject?_of_contributes {m : Mutation} {kind : String} :
    (∀ c, m.Contributes (.member c kind) → m.subject? = some kind) ∧
      (m.Contributes (.kind kind) → m.subject? = some kind) := by
  cases m with
  | defineCategory category includes => exact ⟨fun _ h => h.elim, fun h => h.elim⟩
  | register category k => exact ⟨fun _ h => congrArg some h.2.symm, fun h => h.elim⟩
  | define definition => exact ⟨fun _ h => congrArg some h.2.symm, fun h => congrArg some h.symm⟩

/-- An addition about a kind leaves the includes alone. -/
theorem not_contributes_includes {m : Mutation} (h : m.subject?.isSome) (c d : Category) :
    ¬ m.Contributes (.includes c d) := by
  cases m with
  | defineCategory category includes => cases h
  | register category kind => exact id
  | define definition => exact id

end Mutation

namespace Registry

variable {history : List Mutation} {kind : String}

/-- A kind that no addition is about has the definition that it had before, if any. -/
theorem kind?_after (hr : Consistent r) (hkind : ∀ m ∈ history, m.subject? ≠ some kind) :
    (r.after history).kind? kind = r.kind? kind := by
  apply (steps_after history r).grows.kind?_eq
  intro hnone
  have hholds := Mutation.holds_after (.kind kind) hr
    fun m hm h => hkind m hm (Mutation.subject?_of_contributes.2 h)
  simpa [Holds, hnone] using hholds

/-- Nor do additions about other kinds change where it belongs. -/
theorem belongs_after (hr : Consistent r) (hsubject : ∀ m ∈ history, m.subject?.isSome)
    (hkind : ∀ m ∈ history, m.subject? ≠ some kind) (c : Category) :
    (r.after history).Belongs c kind ↔ r.Belongs c kind := by
  apply belongs_congr
  · exact fun c d => Mutation.holds_after (.includes c d) hr
      fun m hm => Mutation.not_contributes_includes (hsubject m hm) c d
  · exact fun c => Mutation.holds_after (.member c kind) hr
      fun m hm h => hkind m hm (Mutation.subject?_of_contributes.1 c h)

end Registry

/-- A kind that is reported in the wrong place is one of the tree. -/
theorem Validator.kind_of_misplaced {v : Validator} (hr : v.registry.WellFormed) {tree : Node}
    {report : Report} (h : v.validate tree = .ok report) {path : Path} {category : Category}
    {kind : String} (hf : ⟨path, .misplaced category kind⟩ ∈ report.findings) : kind ∈ tree.kinds := by
  obtain ⟨node, hnode, hv⟩ := (mem_findings_iff hr h rfl).1 hf
  rw [violations, List.mem_append, List.mem_append] at hv
  rcases hv with (hv | hv) | hv
  · obtain ⟨_, heq⟩ := mem_misplacements hv
    cases heq
    exact (Node.mem_kinds tree _).2 ⟨path, node, hnode, rfl⟩
  · obtain ⟨_, hne⟩ := mem_misshapes hv; cases hne
  · obtain ⟨_, _, _, _, _, hne⟩ := mem_badAttributes.1 hv; cases hne

/-- Members and definitions that are added for kinds that a tree does not have, whether or not that
succeeds, leave the result of every validation of the tree as it was, and what is built of a kind that
none of them is about. -/
theorem report_isolated (r : Registry) (hr : r.Reachable) (history : List Mutation)
    (hsubject : ∀ m ∈ history, m.subject?.isSome) :
    (∀ tree options, (∀ m ∈ history, ∀ kind ∈ tree.kinds, m.subject? ≠ some kind) →
      (Validator.mk (r.after history) options).validate tree =
        (Validator.mk r options).validate tree) ∧
    ∀ kind parts, (∀ m ∈ history, m.subject? ≠ some kind) →
      (r.after history).construct kind parts = r.construct kind parts := by
  have hwell := hr.wellFormed
  have hwell' := (hr.after history).wellFormed
  refine ⟨fun tree options hother => ?_, fun kind parts hother => ?_⟩
  · have hgrows : r.Grows (r.after history) := (Registry.steps_after history r).grows
    have hreport := Validator.validate_eq (v := ⟨r, options⟩) hwell tree
    have hsame : ∀ kind ∈ tree.kinds, (r.after history).kind? kind = r.kind? kind :=
      fun kind hkind => Registry.kind?_after hr.consistent fun m hm => hother m hm kind hkind
    rw [Validator.validate_extended hgrows hwell hwell' hsame hreport, hreport,
      List.filter_eq_self.2]
    · rfl
    · -- no kind of the tree has come to belong anywhere, so that nothing is settled
      rintro ⟨path, violation⟩ hf
      cases violation with
      | misplaced category kind =>
        have hkind := Validator.kind_of_misplaced hwell hreport hf
        have hbelongs := Registry.belongs_after hr.consistent hsubject
          (fun m hm => hother m hm kind hkind) category
        rw [Bool.not_eq_true', Bool.eq_false_iff, Ne, Violation.settled_misplaced hwell hwell']
        exact fun hsettled => hsettled.1 (hbelongs.1 hsettled.2.1)
      | _ => rfl
  · rw [Registry.construct, Registry.construct, Registry.kind?_after hr.consistent hother]

/-- Poems, scores and marquees, a refused second definition of poems and an undefined category among the
additions, and a tree of misplaced nodes and a stanza that no definition is known of. -/
theorem report_isolated_poems :
    let stanza := Extension.stanza (some 9) [.parent .tableCell []]
    let tree : Node := .parent .root [.parent .paragraph [.parent (.listItem {}) []], stanza]
    let history : List Mutation := [.define Extension.poemDef, .register .flow "marquee",
      .define (KindDef.leaf "poem"), .register ⟨"lyrics"⟩ "marquee", .define Extension.scoreDef]
    let r' := Registry.baseline.after history
    let findings : List Finding := [⟨⟨[0, 0]⟩, .misplaced .phrasing "listItem"⟩,
      ⟨⟨[1]⟩, .misplaced .flow "stanza"⟩]
    Registry.baseline.Reachable ∧ (∀ m ∈ history, m.subject?.isSome) ∧
      (∀ m ∈ history, ∀ kind ∈ tree.kinds, m.subject? ≠ some kind) ∧
      (∀ m ∈ history, m.subject? ≠ some "heading") ∧ (r'.kind? "poem").isSome ∧
      (Validator.mk Registry.baseline {}).validate tree = .ok ⟨false, findings⟩ ∧
      (Validator.mk r' {}).validate tree = .ok ⟨false, findings⟩ ∧
      ∀ parts, r'.construct "heading" parts = Registry.baseline.construct "heading" parts := by
  intro stanza tree history r' findings
  have hr := Registry.reachable_baseline
  have hsubject : ∀ m ∈ history, m.subject?.isSome := by decide
  have hother : ∀ m ∈ history, ∀ kind ∈ tree.kinds, m.subject? ≠ some kind := by decide
  have hheading : ∀ m ∈ history, m.subject? ≠ some "heading" := by decide
  have hpoem : (r'.kind? "poem").isSome := by decide +kernel
  have hbefore : (Validator.mk Registry.baseline {}).validate tree = .ok ⟨false, findings⟩ :=
    Report.eq_ok_of_toOption (by decide +kernel)
  obtain ⟨hvalidate, hconstruct⟩ := report_isolated _ hr history hsubject
  exact ⟨hr, hsubject, hother, hheading, hpoem, hbefore, (hvalidate tree {} hother).trans hbefore,
    fun parts => hconstruct "heading" parts hheading⟩

end WikiDoc
