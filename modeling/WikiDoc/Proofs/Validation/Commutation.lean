import WikiDoc.Proofs.Registry.Contribution

/-!
The order of additions does not matter.

Two registries are alike when they hold the same facts and define the same kinds by definitions that a
validation cannot tell apart (`Registry.Alike`). Membership in alike registries is the same, and every
validation gives the same report (`Registry.Alike.validate`). Additions that all succeed lead to alike
registries in whatever order they are made, since what each of them contributes does not depend on the
others.
-/

namespace WikiDoc

namespace Registry

variable {r₁ r₂ : Registry}

/-- Membership depends on the facts that a registry holds, and on nothing else. -/
theorem belongs_of_holds (h : ∀ fact, r₁.Holds fact ↔ r₂.Holds fact) (c : Category) (kind : String) :
    r₁.Belongs c kind ↔ r₂.Belongs c kind :=
  belongs_congr (fun c d => h (.includes c d)) (fun c => h (.member c kind)) c

theorem contains_congr (h₁ : WellFormed r₁) (h₂ : WellFormed r₂)
    (h : ∀ fact, r₁.Holds fact ↔ r₂.Holds fact) (c : Category) (kind : String) :
    r₁.contains c kind = r₂.contains c kind :=
  contains_eq h₁ h₂ (Bool.eq_iff_iff.2 (h (.category c))) (belongs_of_holds h c kind)

/-- Registries that hold the same facts, and definitions that a validation cannot tell apart. -/
structure Alike (r₁ r₂ : Registry) : Prop where
  holds : ∀ fact, r₁.Holds fact ↔ r₂.Holds fact
  kinds : ∀ kind d₁ d₂, r₁.kind? kind = some d₁ → r₂.kind? kind = some d₂ → d₁.Alike d₂

/-- A kind is defined in both registries, and alike, or in neither. -/
theorem Alike.kind?_cases (h : Alike r₁ r₂) (kind : String) :
    (r₁.kind? kind = none ∧ r₂.kind? kind = none) ∨
      ∃ d₁ d₂, r₁.kind? kind = some d₁ ∧ r₂.kind? kind = some d₂ ∧ d₁.Alike d₂ := by
  have hsome : (r₁.kind? kind).isSome ↔ (r₂.kind? kind).isSome := h.holds (.kind kind)
  cases h₁ : r₁.kind? kind with
  | none =>
    refine Or.inl ⟨rfl, ?_⟩
    simpa [h₁] using hsome
  | some d₁ =>
    rw [h₁] at hsome
    obtain ⟨d₂, h₂⟩ := Option.isSome_iff_exists.1 (hsome.1 rfl)
    exact Or.inr ⟨d₁, d₂, rfl, h₂, h.kinds kind d₁ d₂ h₁ h₂⟩

variable {options : ValidatorOptions}

theorem Alike.content? (h : Alike r₁ r₂) (kind : String) :
    (Validator.mk r₁ options).content? kind = (Validator.mk r₂ options).content? kind := by
  rw [Validator.content?, Validator.content?]
  obtain ⟨h₁, h₂⟩ | ⟨d₁, d₂, h₁, h₂, halike⟩ := h.kind?_cases kind
  · rw [h₁, h₂]
  · rw [h₁, h₂, Option.bind_some, Option.bind_some, halike.content]

/-- A node has the same violations in both registries. -/
theorem Alike.violations (h : Alike r₁ r₂) (above : Option Node) (node : Node) :
    (Validator.mk r₁ options).violations above node = (Validator.mk r₂ options).violations above node := by
  have hplace : (Validator.mk r₁ options).misplacements above node =
      (Validator.mk r₂ options).misplacements above node := by
    have hbelongs : r₁.Belongs = r₂.Belongs := by
      funext c kind
      exact propext (belongs_of_holds h.holds c kind)
    have hsome : (r₁.kind? node.kind).isSome = (r₂.kind? node.kind).isSome :=
      Bool.eq_iff_iff.2 (h.holds (.kind node.kind))
    simp only [Validator.misplacements, h.content?]
    rw [hbelongs, hsome]
  have hshape : (Validator.mk r₁ options).misshapes node = (Validator.mk r₂ options).misshapes node := by
    obtain ⟨h₁, h₂⟩ | ⟨d₁, d₂, h₁, h₂, halike⟩ := h.kind?_cases node.kind
    · simp only [Validator.misshapes_eq, h₁, h₂]
    · simp only [Validator.misshapes_eq, h₁, h₂, halike.shape]
  have hattributes : (Validator.mk r₁ options).badAttributes node =
      (Validator.mk r₂ options).badAttributes node := by
    obtain ⟨h₁, h₂⟩ | ⟨d₁, d₂, h₁, h₂, halike⟩ := h.kind?_cases node.kind
    · simp only [Validator.badAttributes_eq, h₁, h₂]
    · simp only [Validator.badAttributes_eq, h₁, h₂, halike.problems]
  rw [Validator.violations, Validator.violations, hplace, hshape, hattributes]

/-- Alike registries give the same report on every tree. -/
theorem Alike.validate (h : Alike r₁ r₂) (h₁ : WellFormed r₁) (h₂ : WellFormed r₂) (tree : Node) :
    (Validator.mk r₁ options).validate tree = (Validator.mk r₂ options).validate tree := by
  have hsites : (Validator.mk r₁ options).siteFindings = (Validator.mk r₂ options).siteFindings := by
    funext s
    rw [Validator.siteFindings, Validator.siteFindings, h.violations]
  rw [Validator.validate_eq h₁, Validator.validate_eq h₂, hsites]
  rfl

end Registry

namespace Mutation

/-- The patterns in the definition that is added, if one is. -/
def patterns : Mutation → List Pattern
  | .define d => d.patterns
  | .defineCategory _ _ | .register _ _ => []

open Registry

variable {r : Registry} {ops ops' : List Mutation}

/-- Additions in either order lead to registries that hold the same facts. -/
theorem holds_perm (hr : Consistent r) (hperm : ops.Perm ops')
    (h : (applyAll r ops).result = .ok ()) (h' : (applyAll r ops').result = .ok ()) (fact : Fact) :
    (applyAll r ops).registry.Holds fact ↔ (applyAll r ops').registry.Holds fact := by
  rw [holds_applyAll fact hr h, holds_applyAll fact hr h']
  simp only [hperm.mem_iff]

/-- The definitions that a kind has after additions in either order are the same one from before, or
both were added and are taken for the same. -/
theorem kinds_perm (hr : Consistent r) (hperm : ops.Perm ops')
    (h : (applyAll r ops).result = .ok ()) (h' : (applyAll r ops').result = .ok ()) {kind : String}
    {d d' : KindDef} (hd : (applyAll r ops).registry.kind? kind = some d)
    (hd' : (applyAll r ops').registry.kind? kind = some d') :
    d = d' ∨ (.define d ∈ ops ∧ .define d' ∈ ops ∧ d.sameAs d' = true) := by
  have hgrows : r.Grows (applyAll r ops).registry := Steps.grows (steps_applyAll ops r)
  have hgrows' : r.Grows (applyAll r ops').registry := Steps.grows (steps_applyAll ops' r)
  rcases kind?_applyAll h hd with hold | hmem
  · rw [hgrows'.kind? hold] at hd'
    exact Or.inl (Option.some.inj hd')
  · rcases kind?_applyAll h' hd' with hold' | hmem'
    · rw [hgrows.kind? hold'] at hd
      exact Or.inl (Option.some.inj hd).symm
    · have hmem'' : .define d' ∈ ops := hperm.mem_iff.2 hmem'
      have hkind' : d'.kind = kind :=
        (Steps.consistent (steps_applyAll ops' r) hr).keyed kind d' hd'
      obtain ⟨existing, hexisting, hsame⟩ := sameAs_applyAll h hmem''
      rw [hkind', hd] at hexisting
      cases hexisting
      exact Or.inr ⟨hmem, hmem'', hsame⟩

theorem sameAs_perm (hr : Consistent r) (hperm : ops.Perm ops')
    (h : (applyAll r ops).result = .ok ()) (h' : (applyAll r ops').result = .ok ()) {kind : String}
    {d d' : KindDef} (hd : (applyAll r ops).registry.kind? kind = some d)
    (hd' : (applyAll r ops').registry.kind? kind = some d') : d.sameAs d' = true := by
  rcases kinds_perm hr hperm h h' hd hd' with rfl | ⟨_, _, hsame⟩
  · exact KindDef.sameAs_refl d
  · exact hsame

/-- Additions in either order lead to alike registries. -/
theorem alike_perm (hr : Consistent r) (hperm : ops.Perm ops')
    (h : (applyAll r ops).result = .ok ()) (h' : (applyAll r ops').result = .ok ())
    (hmatch : MatchersAgree (ops.flatMap patterns) (ops.flatMap patterns)) :
    Alike (applyAll r ops).registry (applyAll r ops').registry := by
  refine ⟨holds_perm hr hperm h h', ?_⟩
  intro kind d d' hd hd'
  rcases kinds_perm hr hperm h h' hd hd' with rfl | ⟨hmem, hmem', hsame⟩
  · exact KindDef.Alike.refl d
  · have hsub : ∀ {d : KindDef}, .define d ∈ ops → d.patterns ⊆ ops.flatMap patterns :=
      fun hmem p hp => List.mem_flatMap.2 ⟨_, hmem, hp⟩
    exact .of_sameAs hsame (hmatch.mono (hsub hmem) (hsub hmem'))

end Mutation

/-- Additions that all succeed may be made in any order in which they all succeed. The same categories
and kinds are defined then, a kind belongs to the same categories and has the same definition, and every
validation gives the same report, provided that patterns with one description match alike. -/
theorem additions_commute (r : Registry) (hr : r.Reachable) (ops ops' : List Mutation)
    (hperm : ops.Perm ops') (h : (Mutation.applyAll r ops).result = .ok ())
    (h' : (Mutation.applyAll r ops').result = .ok ())
    (hmatch : MatchersAgree (ops.flatMap Mutation.patterns) (ops.flatMap Mutation.patterns)) :
    let r₁ := (Mutation.applyAll r ops).registry
    let r₂ := (Mutation.applyAll r ops').registry
    (∀ c, r₁.hasCategory c = r₂.hasCategory c) ∧
      (∀ kind, (r₁.kind? kind).isSome = (r₂.kind? kind).isSome) ∧
      (∀ c kind, r₁.contains c kind = r₂.contains c kind) ∧
      (∀ kind d₁ d₂, r₁.kind? kind = some d₁ → r₂.kind? kind = some d₂ →
        d₁.sameAs d₂ = true ∧ d₂.sameAs d₁ = true) ∧
      ∀ options tree, ∃ report, (Validator.mk r₁ options).validate tree = .ok report ∧
        (Validator.mk r₂ options).validate tree = .ok report := by
  intro r₁ r₂
  have hconsistent := hr.consistent
  have hwell₁ : r₁.WellFormed := Registry.Steps.wellFormed (Registry.steps_applyAll ops r) hr.wellFormed
  have hwell₂ : r₂.WellFormed := Registry.Steps.wellFormed (Registry.steps_applyAll ops' r) hr.wellFormed
  have halike : r₁.Alike r₂ := Mutation.alike_perm hconsistent hperm h h' hmatch
  refine ⟨fun c => Bool.eq_iff_iff.2 (halike.holds (.category c)),
    fun kind => Bool.eq_iff_iff.2 (halike.holds (.kind kind)),
    Registry.contains_congr hwell₁ hwell₂ halike.holds, ?_, ?_⟩
  · intro kind d₁ d₂ hd₁ hd₂
    exact ⟨Mutation.sameAs_perm hconsistent hperm h h' hd₁ hd₂,
      Mutation.sameAs_perm hconsistent hperm.symm h' h hd₂ hd₁⟩
  · intro options tree
    have hreport := Validator.validate_eq (v := ⟨r₁, options⟩) hwell₁ tree
    exact ⟨_, hreport, halike.validate hwell₁ hwell₂ tree ▸ hreport⟩

/-- Lines of verse with a width, defined twice with different constructors, before and after their
category becomes text. -/
theorem additions_commute_lines :
    let line (build : Constructor) : KindDef :=
      { KindDef.literal "line" with
        rules := [.optional "width" (.pattern "<n>px" Form.isPixelLength)]
        memberOf := [Extension.verse], build := some build }
    let verbatim := line fun parts => .ok (.literal .text (parts.value.getD ""))
    let ops : List Mutation := [.defineCategory Extension.verse [], .define Extension.stanzaDef,
      .define verbatim, .defineCategory .phrasing [Extension.verse], .register .block "line",
      .define (line fun _ => .error (.notConstructible "line"))]
    let ops' : List Mutation := [.defineCategory Extension.verse [],
      .define (line fun _ => .error (.notConstructible "line")), .register .block "line",
      .defineCategory .phrasing [Extension.verse], .define verbatim, .define Extension.stanzaDef]
    let r₁ := (Mutation.applyAll .baseline ops).registry
    let r₂ := (Mutation.applyAll .baseline ops').registry
    Registry.baseline.Reachable ∧ ops.Perm ops' ∧
      (Mutation.applyAll .baseline ops).result = .ok () ∧
      (Mutation.applyAll .baseline ops').result = .ok () ∧
      MatchersAgree (ops.flatMap Mutation.patterns) (ops.flatMap Mutation.patterns) ∧
      (∀ c, r₁.hasCategory c = r₂.hasCategory c) ∧
      (∀ kind, (r₁.kind? kind).isSome = (r₂.kind? kind).isSome) ∧
      (∀ c kind, r₁.contains c kind = r₂.contains c kind) ∧
      (∀ kind d₁ d₂, r₁.kind? kind = some d₁ → r₂.kind? kind = some d₂ →
        d₁.sameAs d₂ = true ∧ d₂.sameAs d₁ = true) ∧
      ∀ options tree, ∃ report, (Validator.mk r₁ options).validate tree = .ok report ∧
        (Validator.mk r₂ options).validate tree = .ok report := by
  intro line verbatim ops ops' r₁ r₂
  have hr := Registry.reachable_baseline
  have hperm : ops.Perm ops' := .cons _ (List.reverse_perm _).symm
  have h : (Mutation.applyAll .baseline ops).result = .ok () := by decide +kernel
  have h' : (Mutation.applyAll .baseline ops').result = .ok () := by decide +kernel
  have hmatch : MatchersAgree (ops.flatMap Mutation.patterns) (ops.flatMap Mutation.patterns) := by
    have hpatterns : ops.flatMap Mutation.patterns =
        [("<n>px", Form.isPixelLength), ("<n>px", Form.isPixelLength)] := rfl
    rw [hpatterns]
    intro p hp q hq _
    simp_all
  exact ⟨hr, hperm, h, h', hmatch, additions_commute .baseline hr ops ops' hperm h h' hmatch⟩

end WikiDoc
