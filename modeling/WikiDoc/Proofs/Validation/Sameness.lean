import WikiDoc.Proofs.Kind.Agreement
import WikiDoc.Proofs.Registry.Baseline
import WikiDoc.Proofs.Registry.Effect
import WikiDoc.Proofs.Validation.Resolution

/-!
Trees that are the same are validated alike, and rebuilt alike.

At paired sites the violations are the same, but for the order of the attributes that no rule declares
(`Validator.alike_siteFindings`). References and definitions do not depend on any order, so the findings
about references are equal. Hence the order of attributes shows nowhere but in the order of undeclared
ones at one path (`Validator.validate_alike`). And as long as all constructors in a registry respect
sameness, it never decides what is built (`Registry.construct_agree`).
-/

namespace WikiDoc

/-- Whether a violation is that no rule declares an attribute. -/
def Violation.isUndeclared : Violation → Bool
  | .badAttribute (.undeclared _) => true
  | .badAttribute (.missing _) | .badAttribute (.invalid _ _) | .misplaced _ _ | .shape _ _
  | .unresolved _ | .ambiguous _ _ => false

/-- Two findings are equal, or they are about undeclared attributes at one path. -/
def Finding.Alike (f g : Finding) : Prop :=
  f = g ∨ f.path = g.path ∧ f.violation.isUndeclared = true ∧ g.violation.isUndeclared = true

/-- Two lists of findings differ at most in the order of undeclared attributes at one path. -/
structure AlikeFindings (fs gs : List Finding) : Prop where
  perm : fs.Perm gs
  aligned : List.Forall₂ Finding.Alike fs gs

namespace AlikeFindings

theorem refl (fs : List Finding) : AlikeFindings fs fs :=
  ⟨.refl fs, List.forall₂_same.2 fun _ _ => Or.inl rfl⟩

theorem append {fs gs fs' gs' : List Finding} (h : AlikeFindings fs gs) (h' : AlikeFindings fs' gs') :
    AlikeFindings (fs ++ fs') (gs ++ gs') :=
  ⟨h.perm.append h'.perm, List.rel_append h.aligned h'.aligned⟩

theorem flatMap {ss ts : List Site} {found found' : Site → List Finding}
    (h : List.Forall₂ Site.Like ss ts)
    (hfound : ∀ s t, s.Like t → AlikeFindings (found s) (found' t)) :
    AlikeFindings (ss.flatMap found) (ts.flatMap found') := by
  induction h with
  | nil => exact .refl []
  | cons hst _ ih =>
    rw [List.flatMap_cons, List.flatMap_cons]
    exact (hfound _ _ hst).append ih

/-- Undeclared attributes at one path, in another order. -/
theorem of_undeclared {names names' : List String} (h : names.Perm names') (path : Path) :
    AlikeFindings (names.map fun name => ⟨path, .badAttribute (.undeclared name)⟩)
      (names'.map fun name => ⟨path, .badAttribute (.undeclared name)⟩) := by
  refine ⟨h.map _, List.forall₂_iff_zip.2 ⟨by simp [h.length_eq], ?_⟩⟩
  intro f g hfg
  obtain ⟨hf, hg⟩ := List.of_mem_zip hfg
  obtain ⟨name, -, rfl⟩ := List.mem_map.1 hf
  obtain ⟨name', -, rfl⟩ := List.mem_map.1 hg
  exact Or.inr ⟨rfl, rfl, rfl⟩

end AlikeFindings

namespace DefinitionIndex

variable {a b : Node}

theorem reference?_of_same (h : a.same b = true) : reference? a = reference? b := by
  cases Node.paired_of_same h with
  | parent tag below => cases tag <;> rfl
  | _ => rfl

theorem definition?_of_same (h : a.same b = true) : definition? a = definition? b := by
  cases Node.paired_of_same h with
  | parent tag below => cases tag <;> rfl
  | _ => rfl

/-- Trees that are the same have the same index of definitions. -/
theorem ofTree_of_same (h : a.same b = true) (matching : IdentifierMatching) :
    ofTree matching a = ofTree matching b := by
  rw [ofTree_eq_foldl, ofTree_eq_foldl]
  refine List.rel_foldl (P := Eq) (R := Site.Like) ?_ rfl (Node.like_sites h)
  rintro index _ rfl s t hst
  simp only [note, definition?_of_same hst.node]

end DefinitionIndex

theorem alike_referenceFindings {a b : Node} (h : a.same b = true) (matching : IdentifierMatching) :
    AlikeFindings (referenceFindings matching a) (referenceFindings matching b) := by
  rw [referenceFindings, referenceFindings, DefinitionIndex.ofTree_of_same h]
  refine .flatMap (Node.like_sites h) fun s t hst => ?_
  rw [DefinitionIndex.findingAt?, DefinitionIndex.findingAt?,
    DefinitionIndex.reference?_of_same hst.node, hst.path]
  exact .refl _

namespace Validator

variable {v : Validator}

theorem misplacements_of_like {s t : Site} (h : s.Like t) :
    v.misplacements s.above s.node = v.misplacements t.above t.node := by
  have hcontent : ∀ above : Option Node, (above.bind fun holder => v.content? holder.kind) =
      (above.map Node.kind).bind v.content? := by
    intro above
    cases above <;> rfl
  rw [misplacements, misplacements, hcontent, hcontent, h.above, (Node.like_of_same h.node).kind]

theorem misshapes_of_like {a b : Node} (h : a.Like b) : v.misshapes a = v.misshapes b := by
  rw [misshapes_eq, misshapes_eq, h.kind, h.observedShape]

theorem alike_badAttributes {a b : Node} (h : a.Like b) (path : Path) : AlikeFindings
    ((v.badAttributes a).map fun violation => ⟨path, violation⟩)
    ((v.badAttributes b).map fun violation => ⟨path, violation⟩) := by
  rw [badAttributes_eq, badAttributes_eq, h.kind]
  cases v.registry.kind? b.kind with
  | none => exact .refl _
  | some d =>
    simp only
    split
    · obtain ⟨found, names, names', hperm, ha, hb⟩ :=
        attributeProblems_of_same h.attributes d.rules d.isOpen
      rw [KindDef.problems, KindDef.problems, ha, hb]
      simp only [List.map_append, List.map_map]
      exact (AlikeFindings.refl _).append (.of_undeclared hperm path)
    · exact .refl _

/-- The findings at paired sites. -/
theorem alike_siteFindings {s t : Site} (h : s.Like t) :
    AlikeFindings (v.siteFindings s) (v.siteFindings t) := by
  have hnode := Node.like_of_same h.node
  simp only [siteFindings, violations, List.map_append, misplacements_of_like h,
    misshapes_of_like hnode, h.path]
  exact (AlikeFindings.refl _).append (alike_badAttributes hnode t.path)

/-- Trees that are the same are validated alike. -/
theorem validate_alike (hr : v.registry.WellFormed) {a b : Node} (h : a.same b = true) :
    ∃ report report', v.validate a = .ok report ∧ v.validate b = .ok report' ∧
      report.valid = report'.valid ∧ AlikeFindings report.findings report'.findings := by
  have hrefs : AlikeFindings (v.referenceFindings? a) (v.referenceFindings? b) := by
    rw [referenceFindings?, referenceFindings?]
    split
    · exact alike_referenceFindings h _
    · exact .refl _
  have halike := (AlikeFindings.flatMap (Node.like_sites h) fun s t => v.alike_siteFindings).append hrefs
  refine ⟨_, _, validate_eq hr a, validate_eq hr b, ?_, halike⟩
  exact halike.perm.isEmpty_eq

end Validator

/-- The constructor belongs to a built-in kind or to scores. -/
def Constructor.IsKnown (build : Constructor) : Prop :=
  (∃ d ∈ Baseline.kinds, d.build = some build) ∨ Extension.scoreDef.build = some build

theorem Constructor.IsKnown.respects {build : Constructor} (h : build.IsKnown) : build.Respects := by
  rcases h with ⟨d, hd, hbuild⟩ | hbuild
  · exact Baseline.respects_kinds hd build hbuild
  · exact Extension.respects_scoreDef build hbuild

/-- With known constructors alone, parts that agree are built alike. -/
theorem Registry.construct_agree {history : List Mutation}
    (hknown : ∀ d build, .define d ∈ history → d.build = some build → build.IsKnown) (kind : String)
    {p q : Parts} (h : p.Like q) : Agree ((baseline.after history).construct kind p)
      ((baseline.after history).construct kind q) := by
  rw [construct, construct]
  cases hd : (baseline.after history).kind? kind with
  | none => exact .refl _
  | some d =>
    have hrespects : d.Respects := by
      rcases Mutation.defined_after hd with hbaseline | hadded
      · exact Baseline.respects_kinds (kind?_baseline.1 hbaseline).1
      · exact fun build hbuild => (hknown d build hadded hbuild).respects
    exact hrespects.construct h

/-- In every registry that additions lead to, trees that are the same are validated with the same
outcome. Their findings are the same up to their order, and where the two lists differ, both have a
finding about an undeclared attribute at one and the same path. If moreover all that is added to the
baseline comes with the constructors of built-in kinds or of scores, then parts that are the same are both
refused or make nodes that are the same, whatever the kind. -/
theorem same_trees_alike :
    (∀ (r : Registry) (options : ValidatorOptions) (a b : Node), r.Reachable → a.same b = true →
      ∃ report report', (Validator.mk r options).validate a = .ok report ∧
        (Validator.mk r options).validate b = .ok report' ∧ report.valid = report'.valid ∧
        report.findings.Perm report'.findings ∧
        List.Forall₂ (fun f g => f = g ∨ f.path = g.path ∧ f.violation.isUndeclared = true ∧
          g.violation.isUndeclared = true) report.findings report'.findings) ∧
    ∀ (history : List Mutation) (kind : String) (p q : Parts),
      (∀ d build, .define d ∈ history → d.build = some build →
        (∃ e ∈ Baseline.kinds, e.build = some build) ∨ Extension.scoreDef.build = some build) →
      p.same q = true →
      (∃ error error', (Registry.baseline.after history).construct kind p = .error error ∧
        (Registry.baseline.after history).construct kind q = .error error') ∨
      ∃ node node', (Registry.baseline.after history).construct kind p = .ok node ∧
        (Registry.baseline.after history).construct kind q = .ok node' ∧ node.same node' = true := by
  constructor
  · intro r options a b hr h
    obtain ⟨report, report', hreport, hreport', hvalid, halike⟩ :=
      Validator.validate_alike (v := ⟨r, options⟩) hr.wellFormed h
    exact ⟨report, report', hreport, hreport', hvalid, halike.perm, halike.aligned⟩
  · intro history kind p q hknown h
    exact Registry.construct_agree hknown kind (Parts.like_of_same h)

/-- A score with two undeclared attributes in either order, and galleries that are built with their options
in either order, after scores were added. -/
theorem same_trees_alike_scores :
    let history : List Mutation := [.define Extension.scoreDef]
    let r := Registry.baseline.after history
    let score := fun attributes : List (String × AttrValue) => Node.custom
      { origin := "score", kind := "score", shape := .literal, attributes := .ofList attributes
        value := some "c d e" } []
    let a := score [("lang", .text "ABC"), ("tempo", .int 90), ("key", .text "C")]
    let b := score [("key", .text "C"), ("tempo", .int 90), ("lang", .text "ABC")]
    let p : Parts := { attributes := .ofList [("mode", .text "packed"), ("caption", .text "Birds")] }
    let q : Parts := { attributes := .ofList [("caption", .text "Birds"), ("mode", .text "packed")] }
    r.Reachable ∧ a.same b = true ∧ p.same q = true ∧
      (∃ report report', (Validator.mk r {}).validate a = .ok report ∧
        (Validator.mk r {}).validate b = .ok report' ∧ report.findings ≠ report'.findings ∧
        report.valid = report'.valid ∧ report.findings.Perm report'.findings) ∧
      ∃ node node', r.construct "gallery" p = .ok node ∧ r.construct "gallery" q = .ok node' ∧
        node.same node' = true := by
  intro history r score a b p q
  have hr : r.Reachable := ⟨history, Or.inr rfl⟩
  have hab : a.same b = true := by decide
  have hpq : p.same q = true := by decide
  obtain ⟨hvalidate, hconstruct⟩ := same_trees_alike
  refine ⟨hr, hab, hpq, ?_, ?_⟩
  · obtain ⟨report, report', hreport, hreport', hvalid, hperm, -⟩ := hvalidate r {} a b hr hab
    refine ⟨report, report', hreport, hreport', ?_, hvalid, hperm⟩
    have hdiffer : ((Validator.mk r {}).validate a).toOption.map Report.findings ≠
        ((Validator.mk r {}).validate b).toOption.map Report.findings := by decide +kernel
    rw [hreport, hreport'] at hdiffer
    simpa [Except.toOption] using hdiffer
  · have hknown : ∀ d build, .define d ∈ history → d.build = some build →
        (∃ e ∈ Baseline.kinds, e.build = some build) ∨ Extension.scoreDef.build = some build := by
      intro d build hd hbuild
      cases List.mem_singleton.1 hd
      exact Or.inr hbuild
    have hok : ∃ node, r.construct "gallery" p = .ok node := ⟨_, rfl⟩
    rcases hconstruct history "gallery" p q hknown hpq with ⟨error, _, herror, -⟩ | hnodes
    · obtain ⟨node, hnode⟩ := hok
      rw [hnode] at herror
      cases herror
    · exact hnodes

end WikiDoc
