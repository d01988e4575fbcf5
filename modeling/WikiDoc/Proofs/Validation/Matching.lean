import WikiDoc.Proofs.Validation.Resolution

/-!
Comparing identifiers without regard to case, against comparing them exactly.

Equal identifiers stay equal in whatever form they are compared, so a definition that an identifier matches
exactly is matched in every other way as well (`defines_of_exact`), and the count of no reference drops
(`length_definitionPaths_exact_le`). A finding about a reference is decided by the count of that one
reference (`mem_referenceFindingsAt`). So a reference can lose the finding that it has no definition, and
can come to have too many, and nothing else can happen to it.
-/

namespace WikiDoc

variable {matching : IdentifierMatching} {tree : Node} {path : Path} {f : Finding}

namespace DefinitionIndex

theorem defines_of_exact {sort : ReferenceSort} {identifier : String} {node : Node}
    (h : defines .exact sort identifier node = true) (matching : IdentifierMatching) :
    defines matching sort identifier node = true := by
  rw [defines] at h ⊢
  cases hd : definition? node with
  | none => simp [hd] at h
  | some found =>
    obtain ⟨sort', association⟩ := found
    simp only [hd, Option.any_some, Bool.and_eq_true, decide_eq_true_iff, beq_iff_eq] at h ⊢
    have hidentifier : association.identifier = identifier := h.2
    exact ⟨h.1, congrArg matching.normalize hidentifier⟩

end DefinitionIndex

/-- However identifiers are compared, one that matches some definitions exactly matches no fewer. -/
theorem length_definitionPaths_exact_le (matching : IdentifierMatching) (tree : Node)
    (sort : ReferenceSort) (identifier : String) :
    (definitionPaths .exact tree sort identifier).length ≤
      (definitionPaths matching tree sort identifier).length := by
  apply List.Sublist.length_le
  apply List.monotone_filter_right
  intro path hpath
  obtain ⟨node, hnode, hdefines⟩ := (Option.any_eq_true _ _).1 hpath
  exact (Option.any_eq_true _ _).2 ⟨node, hnode, DefinitionIndex.defines_of_exact hdefines matching⟩

/-- What is reported at a path, read off the number of definitions that the reference there matches. -/
theorem mem_referenceFindingsAt : f ∈ referenceFindingsAt matching tree path ↔ ∃ sort reference,
    (tree.at? path).bind DefinitionIndex.reference? = some (sort, reference) ∧
      let count := (definitionPaths matching tree sort reference.identifier).length
      (count = 0 ∧ f = ⟨path, .unresolved reference.identifier⟩ ∨
        2 ≤ count ∧ f = ⟨path, .ambiguous reference.identifier count⟩) := by
  rw [referenceFindingsAt]
  cases (tree.at? path).bind DefinitionIndex.reference? with
  | none => simp
  | some found =>
    obtain ⟨sort, reference⟩ := found
    simp only [Option.some.injEq, Prod.mk.injEq, existsAndEq, true_and]
    rcases (definitionPaths matching tree sort reference.identifier).length with _ | _ | count <;> simp

/-- A reference that matches no definition in some way matches none exactly. -/
theorem unresolved_exact {identifier : String}
    (h : ⟨path, .unresolved identifier⟩ ∈ referenceFindingsAt matching tree path) :
    ⟨path, .unresolved identifier⟩ ∈ referenceFindingsAt .exact tree path := by
  obtain ⟨sort, reference, hat, ⟨hnone, heq⟩ | ⟨-, hne⟩⟩ := mem_referenceFindingsAt.1 h
  · have hle := length_definitionPaths_exact_le matching tree sort reference.identifier
    exact mem_referenceFindingsAt.2 ⟨sort, reference, hat, Or.inl ⟨by omega, heq⟩⟩
  · simp at hne

/-- A reference that matches several definitions exactly matches no fewer in any other way. -/
theorem ambiguous_of_exact {identifier : String} {count : Nat}
    (h : ⟨path, .ambiguous identifier count⟩ ∈ referenceFindingsAt .exact tree path)
    (matching : IdentifierMatching) : ∃ count', count ≤ count' ∧
      ⟨path, .ambiguous identifier count'⟩ ∈ referenceFindingsAt matching tree path := by
  obtain ⟨sort, reference, hat, ⟨-, hne⟩ | ⟨hseveral, heq⟩⟩ := mem_referenceFindingsAt.1 h
  · simp at hne
  · have hle := length_definitionPaths_exact_le matching tree sort reference.identifier
    simp only [Finding.mk.injEq, Violation.ambiguous.injEq, true_and] at heq
    obtain ⟨rfl, rfl⟩ := heq
    exact ⟨_, hle, mem_referenceFindingsAt.2 ⟨sort, reference, hat, Or.inr ⟨Nat.le_trans hseveral hle, rfl⟩⟩⟩

theorem mem_referenceFindings : f ∈ referenceFindings matching tree ↔
    f ∈ referenceFindingsAt matching tree f.path := by
  rw [referenceFindings_eq_flatMap, List.mem_flatMap]
  constructor
  · rintro ⟨path, _, hf⟩
    rwa [(isSome_reference?_of_mem hf).1]
  · intro hf
    obtain ⟨-, node, hnode, -⟩ := isSome_reference?_of_mem hf
    exact ⟨f.path, (tree.mem_paths f.path).2 (Option.isSome_iff_exists.2 ⟨node, hnode⟩), hf⟩

namespace Validator

variable {v : Validator}

/-- A finding about a reference is what is reported at its path, if references are checked at all. -/
theorem mem_findings_iff_of_isReference (hr : v.registry.WellFormed) {report : Report}
    (h : v.validate tree = .ok report) (hf : f.violation.isReference = true) : f ∈ report.findings ↔
      v.options.checkReferences = true ∧
        f ∈ referenceFindingsAt v.options.identifierMatching tree f.path := by
  rw [validate_eq hr] at h
  cases h
  have hlast : f ∈ tree.sites.flatMap v.siteFindings ++ v.referenceFindings? tree ↔
      f ∈ v.referenceFindings? tree := by
    conv_rhs => rw [← filter_isReference tree, List.mem_filter, and_iff_left hf]
  rw [Report.ofFindings, hlast, referenceFindings?, ← mem_referenceFindings]
  cases v.options.checkReferences <;> simp

/-- The findings that are not about references come from the sites alone. -/
theorem filter_not_isReference (hr : v.registry.WellFormed) {report : Report}
    (h : v.validate tree = .ok report) : report.findings.filter (fun f => !f.violation.isReference) =
      (tree.sites.flatMap v.siteFindings).filter fun f => !f.violation.isReference := by
  rw [validate_eq hr] at h
  cases h
  have hrefs : (v.referenceFindings? tree).filter (fun f => !f.violation.isReference) = [] := by
    rw [List.filter_eq_nil_iff]
    intro f hf
    rw [isReference_of_mem_referenceFindings? hf]
    exact Bool.false_ne_true
  rw [Report.ofFindings, List.filter_append, hrefs, List.append_nil]

end Validator

/-- Of two validations of a tree that differ only in how identifiers are compared, exactly or without
regard to case, both succeed and report the same about everything but references. What has no definition
without regard to case has none exactly; what has several exactly has no fewer without regard to case;
and a reference about which nothing is reported exactly can only come to have several. -/
theorem looser_matching (r : Registry) (hr : r.Reachable) (options : ValidatorOptions) (tree : Node) :
    ∃ strict lax : Report,
      (Validator.mk r { options with identifierMatching := .exact }).validate tree = .ok strict ∧
      (Validator.mk r { options with identifierMatching := .caseInsensitive }).validate tree = .ok lax ∧
      strict.findings.filter (fun f => !f.violation.isReference) =
        lax.findings.filter (fun f => !f.violation.isReference) ∧
      (∀ path identifier, ⟨path, .unresolved identifier⟩ ∈ lax.findings →
        ⟨path, .unresolved identifier⟩ ∈ strict.findings) ∧
      (∀ path identifier count, ⟨path, .ambiguous identifier count⟩ ∈ strict.findings →
        ∃ count', count ≤ count' ∧ ⟨path, .ambiguous identifier count'⟩ ∈ lax.findings) ∧
      ∀ f ∈ lax.findings, f.violation.isReference = true →
        (∀ g ∈ strict.findings, g.path = f.path → g.violation.isReference = false) →
        ∃ identifier count, f.violation = .ambiguous identifier count ∧ 2 ≤ count := by
  let exactly : Validator := ⟨r, { options with identifierMatching := .exact }⟩
  let loosely : Validator := ⟨r, { options with identifierMatching := .caseInsensitive }⟩
  obtain ⟨strict, hstrict⟩ : ∃ report, exactly.validate tree = .ok report :=
    ⟨_, exactly.validate_eq hr.wellFormed tree⟩
  obtain ⟨lax, hlax⟩ : ∃ report, loosely.validate tree = .ok report :=
    ⟨_, loosely.validate_eq hr.wellFormed tree⟩
  have hmemStrict := fun f => exactly.mem_findings_iff_of_isReference (f := f) hr.wellFormed hstrict
  have hmemLax := fun f => loosely.mem_findings_iff_of_isReference (f := f) hr.wellFormed hlax
  have hunresolved : ∀ path identifier, ⟨path, .unresolved identifier⟩ ∈ lax.findings →
      ⟨path, .unresolved identifier⟩ ∈ strict.findings := by
    intro path identifier h
    obtain ⟨hcheck, h⟩ := (hmemLax _ rfl).1 h
    exact (hmemStrict _ rfl).2 ⟨hcheck, unresolved_exact h⟩
  refine ⟨strict, lax, hstrict, hlax, ?_, hunresolved, ?_, ?_⟩
  · rw [exactly.filter_not_isReference hr.wellFormed hstrict,
      loosely.filter_not_isReference hr.wellFormed hlax]
    rfl
  · intro path identifier count h
    obtain ⟨hcheck, h⟩ := (hmemStrict _ rfl).1 h
    obtain ⟨count', hle, h⟩ := ambiguous_of_exact h .caseInsensitive
    exact ⟨count', hle, (hmemLax _ rfl).2 ⟨hcheck, h⟩⟩
  · intro f hf href hquiet
    obtain ⟨-, hat⟩ := (hmemLax f href).1 hf
    obtain ⟨sort, reference, -, ⟨-, heq⟩ | ⟨hseveral, heq⟩⟩ := mem_referenceFindingsAt.1 hat
    · -- it would have been reported exactly as well
      rw [heq] at hf
      exact absurd (hquiet _ (hunresolved _ _ hf) (by rw [heq])) Bool.noConfusion
    · rw [heq]
      exact ⟨_, _, rfl, hseveral⟩

/-- Of four references, one comes to have a definition and one comes to have two; one has no definition
either way, and one has two exactly and three without regard to case. -/
theorem looser_matching_footnotes :
    let note (identifier : String) : Node := .leaf (.footnoteReference ⟨⟨identifier, none⟩, .full⟩)
    let define (identifier : String) : Node := .parent (.footnoteDefinition ⟨identifier, none⟩) []
    let tree : Node := .parent .root
      [.parent .paragraph [note "BAR", note "Foo", note "baz", note "a"],
        define "bar", define "Foo", define "foo ", define "a", define "a", define "A",
        .leaf (.definition ⟨"baz", none⟩ ⟨"u", none⟩)]
    Registry.baseline.Reachable ∧
      tree.paths.flatMap (referenceFindingsAt .exact tree) =
        [⟨⟨[0, 0]⟩, .unresolved "BAR"⟩, ⟨⟨[0, 2]⟩, .unresolved "baz"⟩, ⟨⟨[0, 3]⟩, .ambiguous "a" 2⟩] ∧
      tree.paths.flatMap (referenceFindingsAt .caseInsensitive tree) =
        [⟨⟨[0, 1]⟩, .ambiguous "Foo" 2⟩, ⟨⟨[0, 2]⟩, .unresolved "baz"⟩, ⟨⟨[0, 3]⟩, .ambiguous "a" 3⟩] ∧
      ∃ strict lax : Report,
        (Validator.mk .baseline { identifierMatching := .exact }).validate tree = .ok strict ∧
        (Validator.mk .baseline { identifierMatching := .caseInsensitive }).validate tree = .ok lax ∧
        strict.findings.filter (fun f => !f.violation.isReference) =
          lax.findings.filter (fun f => !f.violation.isReference) ∧
        (∀ path identifier, ⟨path, .unresolved identifier⟩ ∈ lax.findings →
          ⟨path, .unresolved identifier⟩ ∈ strict.findings) ∧
        (∀ path identifier count, ⟨path, .ambiguous identifier count⟩ ∈ strict.findings →
          ∃ count', count ≤ count' ∧ ⟨path, .ambiguous identifier count'⟩ ∈ lax.findings) ∧
        ∀ f ∈ lax.findings, f.violation.isReference = true →
          (∀ g ∈ strict.findings, g.path = f.path → g.violation.isReference = false) →
          ∃ identifier count, f.violation = .ambiguous identifier count ∧ 2 ≤ count := by
  intro note define tree
  have hexact : tree.paths.flatMap (referenceFindingsAt .exact tree) =
      [⟨⟨[0, 0]⟩, .unresolved "BAR"⟩, ⟨⟨[0, 2]⟩, .unresolved "baz"⟩, ⟨⟨[0, 3]⟩, .ambiguous "a" 2⟩] := by
    decide +kernel
  have hloose : tree.paths.flatMap (referenceFindingsAt .caseInsensitive tree) =
      [⟨⟨[0, 1]⟩, .ambiguous "Foo" 2⟩, ⟨⟨[0, 2]⟩, .unresolved "baz"⟩, ⟨⟨[0, 3]⟩, .ambiguous "a" 3⟩] := by
    decide +kernel
  have hr := Registry.reachable_baseline
  exact ⟨hr, hexact, hloose, looser_matching .baseline hr {} tree⟩

end WikiDoc
