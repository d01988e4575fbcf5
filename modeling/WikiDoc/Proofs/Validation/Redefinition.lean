import WikiDoc.Proofs.Registry.Effect
import WikiDoc.Proofs.Registry.Permanence
import WikiDoc.Proofs.Validation.Commutation

/-!
A kind may be defined again in the same way.

Since sameness of definitions is an equivalence, it does not matter which of two definitions of a kind
comes first: both are accepted in either order, or there is a conflict in either order (`clash_comm`).
Nor can it be told later which of two definitions that are taken for the same was registered. Registries
that hold one in the place of the other (`Swapped`) go on to do so whatever is added to both
(`Swapped.apply`, `Swapped.after`), and validations cannot tell them apart (`Swapped.alike`).
-/

namespace WikiDoc

namespace Registry

variable {r r' : Registry} {d d' : KindDef}

/-! ### Conflicts -/

/-- A definition whose categories are defined is accepted, unless the kind has another one. -/
theorem result_define (hdefined : ∀ c ∈ d.categories, r.hasCategory c) : (r.define d).result =
    if (r.kind? d.kind).all (·.sameAs d) then .ok () else .error (.conflict d.kind) := by
  rw [define, undefined?_eq_none.2 hdefined]
  cases r.kind? d.kind with
  | some existing =>
    simp only [Option.all_some]
    split <;> rfl
  | none =>
    obtain ⟨hok, -⟩ := registerInto_ok d.kind d.memberOf r
      fun c hc => hdefined c (List.mem_append_right _ hc)
    simp only [Outcome.andThen, hok]
    rfl

/-- One of two definitions that are registered one after the other is in conflict with what is there. -/
def Clash (r : Registry) (d d' : KindDef) : Prop :=
  (r.define d).result = .error (.conflict d.kind) ∨
    ((r.define d).registry.define d').result = .error (.conflict d'.kind)

/-- Two definitions of a kind clash unless they are taken for the same, and for the same as the one that
the kind has, if it has one. -/
theorem clash_iff (hkind : d.kind = d'.kind) (hd : ∀ c ∈ d.categories, r.hasCategory c)
    (hd' : ∀ c ∈ d'.categories, r.hasCategory c) :
    r.Clash d d' ↔ ((r.kind? d.kind).all (·.sameAs d) && d.sameAs d') = false := by
  have hnext : ∀ c ∈ d'.categories, (r.define d).registry.hasCategory c :=
    fun c hc => (Steps.grows (r.steps_define d)).hasCategory (hd' c hc)
  rw [Clash, result_define hnext, ← hkind]
  cases hexisting : r.kind? d.kind with
  | some existing =>
    rw [define_defined hexisting, hexisting, result_define hd, hexisting, Option.all_some, Option.all_some]
    by_cases hsame : existing.sameAs d = true
    · simp [hsame, KindDef.sameAs_congr hsame d']
    · simp [hsame]
  | none =>
    have hok : (r.define d).result = .ok () := by rw [result_define hd, hexisting]; rfl
    rw [hok, (kind?_define hok).1 hexisting]
    simp

theorem clash_comm (hkind : d.kind = d'.kind) (hd : ∀ c ∈ d.categories, r.hasCategory c)
    (hd' : ∀ c ∈ d'.categories, r.hasCategory c) : r.Clash d d' ↔ r.Clash d' d := by
  rw [clash_iff hkind hd hd', clash_iff hkind.symm hd' hd, ← hkind, KindDef.sameAs_comm d' d]
  cases hsame : d.sameAs d' with
  | false => simp
  | true =>
    have hiff : ∀ existing : KindDef, existing.sameAs d = existing.sameAs d' := by
      intro existing
      rw [KindDef.sameAs_comm existing, KindDef.sameAs_congr hsame, KindDef.sameAs_comm]
    simp only [hiff]

/-- A kind can be defined again in the same way, and that changes nothing. -/
theorem define_sameAs (hr : WellFormed r) (hd : r.kind? d.kind = some d) (hsame : d.sameAs d' = true) :
    r.define d' = ⟨.ok (), r, []⟩ := by
  obtain ⟨hkind, -⟩ := KindDef.sameAs_iff.1 hsame
  have hdefined : r.undefined? d'.categories = none := by
    rw [← KindDef.categories_of_sameAs hsame]
    exact undefined?_eq_none.2 (hr.kinds d.kind d hd)
  rw [hkind] at hd
  simp only [define, hdefined, hd, if_pos hsame]

/-! ### One definition in the place of another -/

/-- The second registry differs from the first one by having `d'` where that has `d`, if at all. -/
structure Swapped (d d' : KindDef) (r r' : Registry) : Prop where
  categories : r.categories = r'.categories
  kinds : ∀ kind, r.kind? kind = r'.kind? kind ∨ (r.kind? kind = some d ∧ r'.kind? kind = some d')

theorem Swapped.refl (d d' : KindDef) (r : Registry) : Swapped d d' r r := ⟨rfl, fun _ => Or.inl rfl⟩

theorem undefined?_congr (h : r.categories = r'.categories) (categories : List Category) :
    r.undefined? categories = r'.undefined? categories := by
  simp only [undefined?, hasCategory, h]

theorem categories_defineCategory (h : r.categories = r'.categories) (category : Category)
    (includes : List Category) : (r.defineCategory category includes).registry.categories =
      (r'.defineCategory category includes).registry.categories := by
  simp only [defineCategory, undefined?_congr h, h]
  split
  · exact h
  · rfl

theorem kinds_defineCategory (r : Registry) (category : Category) (includes : List Category) :
    (r.defineCategory category includes).registry.kinds = r.kinds := by
  unfold defineCategory
  split <;> rfl

theorem register_congr (h : r.categories = r'.categories) (category : Category) (kind : String) :
    (r.register category kind).result = (r'.register category kind).result ∧
      (r.register category kind).registry.categories =
        (r'.register category kind).registry.categories := by
  simp only [register, h]
  split
  · exact ⟨rfl, h⟩
  · split
    · exact ⟨rfl, h⟩
    · exact ⟨rfl, rfl⟩

theorem categories_registerInto (kind : String) : ∀ (categories : List Category) {r r' : Registry},
    r.categories = r'.categories → (r.registerInto kind categories).registry.categories =
      (r'.registerInto kind categories).registry.categories
  | [], _, _, h => h
  | category :: rest, r, r', h => by
    obtain ⟨hresult, hnext⟩ := register_congr h category kind
    simp only [registerInto, Outcome.andThen, hresult]
    split
    · exact categories_registerInto kind rest hnext
    · exact hnext

/-- What becomes of a registry when a kind without a definition is defined. -/
theorem registry_define_new (hnone : r.kind? d.kind = none) : (r.define d).registry =
    if (r.undefined? d.categories).isSome then r
    else (r.registerInto d.kind d.memberOf).registry.setKind d := by
  cases hmissing : r.undefined? d.categories with
  | some missing => simp only [define, hmissing]; rfl
  | none =>
    have hok : (r.define d).result = .ok () := by
      rw [result_define (undefined?_eq_none.1 hmissing), hnone]
      rfl
    obtain ⟨existing, hexisting, -⟩ | ⟨-, -, hregistry⟩ := define_cases hok
    · rw [hnone] at hexisting
      cases hexisting
    · exact hregistry

/-- Either of two definitions that are taken for the same is registered. -/
theorem swapped_define (r : Registry) (hsame : d.sameAs d' = true) :
    Swapped d d' (r.define d).registry (r.define d').registry := by
  obtain ⟨hkind, -, -, -, hmemberOf, -, -⟩ := KindDef.sameAs_iff.1 hsame
  cases hexisting : r.kind? d.kind with
  | some existing =>
    rw [define_defined hexisting, define_defined (hkind ▸ hexisting)]
    exact .refl d d' r
  | none =>
    rw [registry_define_new hexisting, registry_define_new (hkind ▸ hexisting), ← KindDef.categories_of_sameAs hsame,
      ← hkind, ← hmemberOf]
    split
    · exact .refl d d' r
    · refine ⟨rfl, fun kind => ?_⟩
      rw [kind?_setKind, kind?_setKind, ← hkind]
      by_cases hk : kind = d.kind
      · exact Or.inr ⟨if_pos hk, if_pos hk⟩
      · exact Or.inl (by rw [if_neg hk, if_neg hk])

theorem Swapped.define (h : Swapped d d' r r') (definition : KindDef) :
    Swapped d d' (r.define definition).registry (r'.define definition).registry := by
  rcases h.kinds definition.kind with heq | ⟨hd, hd'⟩
  · cases hexisting : r.kind? definition.kind with
    | some existing => rwa [define_defined hexisting, define_defined (heq ▸ hexisting)]
    | none =>
      rw [registry_define_new hexisting, registry_define_new (heq ▸ hexisting), undefined?_congr h.categories]
      split
      · exact h
      · refine ⟨categories_registerInto definition.kind definition.memberOf h.categories, fun kind => ?_⟩
        rw [kind?_setKind, kind?_setKind, kind?, kind?, kinds_registerInto, kinds_registerInto]
        by_cases hk : kind = definition.kind
        · exact Or.inl (by rw [if_pos hk, if_pos hk])
        · rw [if_neg hk, if_neg hk]
          exact h.kinds kind
  · rwa [define_defined hd, define_defined hd']

/-- Whatever is added to both registries, one definition stays in the place of the other. -/
theorem Swapped.apply (h : Swapped d d' r r') (m : Mutation) :
    Swapped d d' (m.apply r).registry (m.apply r').registry := by
  cases m with
  | defineCategory category includes =>
    refine ⟨categories_defineCategory h.categories category includes, fun kind => ?_⟩
    simp only [Mutation.apply, kind?, kinds_defineCategory]
    exact h.kinds kind
  | register category name =>
    rw [Mutation.registry_apply_register, Mutation.registry_apply_register]
    refine ⟨(register_congr h.categories category name).2, fun kind => ?_⟩
    simp only [kind?, kinds_register]
    exact h.kinds kind
  | define definition => exact h.define definition

theorem Swapped.after (h : Swapped d d' r r') (history : List Mutation) :
    Swapped d d' (r.after history) (r'.after history) := by
  induction history generalizing r r' with
  | nil => exact h
  | cons m rest ih => exact ih (h.apply m)

/-- A validation cannot tell which of two definitions is registered that it cannot tell apart. -/
theorem Swapped.alike (h : Swapped d d' r r') (halike : d.Alike d') : r.Alike r' := by
  refine ⟨fun fact => ?_, fun kind d₁ d₂ h₁ h₂ => ?_⟩
  · cases fact with
    | category c => simp only [Holds, hasCategory, h.categories]
    | includes c d => simp only [Holds, Includes, h.categories]
    | member c kind => simp only [Holds, HasMember, h.categories]
    | kind kind =>
      rcases h.kinds kind with heq | ⟨hd, hd'⟩
      · simp only [Holds, heq]
      · simp only [Holds, hd, hd', Option.isSome_some]
  · rcases h.kinds kind with heq | ⟨hd, hd'⟩
    · rw [heq, h₂] at h₁
      cases h₁
      exact .refl d₁
    · rw [hd] at h₁
      rw [hd'] at h₂
      cases h₁
      cases h₂
      exact halike

end Registry

/-- Definitions that are taken for the same can stand for each other. Sameness is an equivalence, of
constraints and of definitions, so two definitions of a kind clash in either order or in none. Provided
that patterns with one description match alike, constraints that are the same reject the same values for
the same reasons, and definitions that are the same find the same problems with all attributes. To
register the second one after the first is accepted without effect, and to register it instead of the
first changes no report, whatever is added later. -/
theorem sameAs_sound :
    Equivalence (fun a b : Constraint => a.sameAs b = true) ∧
    Equivalence (fun d d' : KindDef => d.sameAs d' = true) ∧
    (∀ (r : Registry) (d d' : KindDef), d.kind = d'.kind →
      (∀ c ∈ d.categories ++ d'.categories, r.hasCategory c) →
      (r.Clash d d' ↔ r.Clash d' d) ∧
      (r.kind? d.kind = none → (r.Clash d d' ↔ d.sameAs d' = false))) ∧
    (∀ a b : Constraint, a.sameAs b = true → MatchersAgree a.patterns b.patterns →
      ∀ value, a.rejection? value = b.rejection? value) ∧
    ∀ d d' : KindDef, d.sameAs d' = true → MatchersAgree d.patterns d'.patterns →
      (∀ attrs, d.problems attrs = d'.problems attrs) ∧
      ∀ r : Registry, r.Reachable →
        (r.kind? d.kind = some d → r.define d' = ⟨.ok (), r, []⟩) ∧
        ∀ history options tree, ∃ report,
          (Validator.mk (r.after (.define d :: history)) options).validate tree = .ok report ∧
          (Validator.mk (r.after (.define d' :: history)) options).validate tree = .ok report := by
  refine ⟨Constraint.equivalence_sameAs, KindDef.equivalence_sameAs, ?_, ?_, ?_⟩
  · intro r d d' hkind hdefined
    rw [List.forall_mem_append] at hdefined
    refine ⟨Registry.clash_comm hkind hdefined.1 hdefined.2, fun hnone => ?_⟩
    rw [Registry.clash_iff hkind hdefined.1 hdefined.2, hnone]
    rfl
  · intro a b hsame hmatch
    exact Constraint.rejection?_eq_of_sameAs hsame hmatch
  · intro d d' hsame hmatch
    have halike := KindDef.Alike.of_sameAs hsame hmatch
    refine ⟨halike.problems, fun r hr => ⟨fun hd => Registry.define_sameAs hr.wellFormed hd hsame, ?_⟩⟩
    intro history options tree
    have hwell := (hr.after (.define d :: history)).wellFormed
    have hwell' := (hr.after (.define d' :: history)).wellFormed
    have hregistries := ((r.swapped_define hsame).after history).alike halike
    have hreport := Validator.validate_eq (v := ⟨_, options⟩) hwell tree
    exact ⟨_, hreport, (hregistries.validate hwell hwell' tree).symm.trans hreport⟩

/-- Lines of verse with a list of widths, with one matcher and constructor or another, and without the
rule for the widths. -/
theorem sameAs_sound_lines :
    let widths (accepts : String → Bool) : Constraint := .listOf (.pattern "<n>px" accepts)
    let line (accepts : String → Bool) (build : Constructor) : KindDef :=
      { KindDef.literal "line" with
        rules := [.optional "indent" (.range 0 8), .optional "widths" (widths accepts)]
        memberOf := [.phrasing], build := some build }
    let copied (text : String) : Bool := Form.isPixelLength (String.ofList text.toList)
    let d := line Form.isPixelLength fun parts => .ok (.literal .text (parts.value.getD ""))
    let d' := line copied fun _ => .error (.notConstructible "line")
    let plain : KindDef := { d with rules := [.optional "indent" (.range 0 8)] }
    let r := Registry.baseline
    let r' := (r.define d).registry
    r.Reachable ∧ r.kind? "line" = none ∧ (∀ c ∈ d.categories ++ plain.categories, r.hasCategory c) ∧
      d.sameAs plain = false ∧ r.Clash d plain ∧ r.Clash plain d ∧
      d.sameAs d' = true ∧ MatchersAgree d.patterns d'.patterns ∧
      (∀ value, (widths Form.isPixelLength).rejection? value = (widths copied).rejection? value) ∧
      (∀ attrs, d.problems attrs = d'.problems attrs) ∧
      r'.kind? "line" = some d ∧ r'.define d' = ⟨.ok (), r', []⟩ ∧
      ∀ history options tree, ∃ report,
        (Validator.mk (r.after (.define d :: history)) options).validate tree = .ok report ∧
        (Validator.mk (r.after (.define d' :: history)) options).validate tree = .ok report := by
  intro widths line copied d d' plain r r'
  have hr := Registry.reachable_baseline
  have hnone : r.kind? "line" = none := Option.isNone_iff_eq_none.1 (by decide +kernel)
  have hdefined : ∀ c ∈ d.categories ++ plain.categories, r.hasCategory c := by decide +kernel
  have hdiffer : d.sameAs plain = false := by decide +kernel
  have hsame : d.sameAs d' = true := by decide +kernel
  have hcopied : Form.isPixelLength = copied := funext fun text => by simp only [copied, String.ofList_toList]
  have hmatch : MatchersAgree [("<n>px", Form.isPixelLength)] [("<n>px", copied)] := by
    rw [← hcopied]
    intro p hp q hq _
    simp_all
  have hstored : r'.kind? "line" = some d :=
    (Registry.kind?_define (show (r.define d).result = .ok () by decide +kernel)).1 hnone
  obtain ⟨-, -, hclash, hconstraint, hdefinition⟩ := sameAs_sound
  obtain ⟨hcomm, hiff⟩ := hclash r d plain rfl hdefined
  obtain ⟨hproblems, hreports⟩ := hdefinition d d' hsame hmatch
  exact ⟨hr, hnone, hdefined, hdiffer, (hiff hnone).2 hdiffer, hcomm.1 ((hiff hnone).2 hdiffer), hsame,
    hmatch, hconstraint (widths Form.isPixelLength) (widths copied) rfl hmatch, hproblems, hstored,
    (hreports r' (hr.after [.define d])).1 hstored, (hreports r hr).2⟩

end WikiDoc
