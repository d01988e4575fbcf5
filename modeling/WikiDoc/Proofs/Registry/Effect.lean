import WikiDoc.Proofs.Registry.Contribution

/-!
What an addition changes about membership.

Members that are added reach every category that leads to theirs (`belongs_of_members`). Includes that
are added to a category bring what belongs to the included ones to every category that leads to it
(`belongs_of_includes`): a way through the new includes may use them over and over, but what it finds
after the last use, a way that uses them once finds as well. So each addition makes certain kinds belong
to certain categories and changes nothing else about membership (`membership_effect`), also where
includes go round in circles. An addition that is refused changes nothing
(`Mutation.registry_of_error`), and a fact that no addition contributes is as it was before
(`Mutation.holds_after`).
-/

namespace WikiDoc

namespace Registry

variable {r r' : Registry}

/-- Includes lead from one category to another, through any number of categories. -/
abbrev Leads (r : Registry) : Category → Category → Prop := Relation.ReflTransGen r.Includes

/-- Nothing leads to an undefined category but itself. -/
theorem WellFormed.leads_undefined (hr : WellFormed r) {c d : Category}
    (hc : r.hasCategory c = false) : r.Leads d c ↔ d = c := by
  constructor
  · intro h
    rcases h.cases_tail with heq | ⟨b, _, e, he, hinclude⟩
    · exact heq.symm
    · exact absurd (hr.includes b e he c hinclude) (by simp [hc])
  · rintro rfl
    exact .refl

/-! ### More members, more includes -/

/-- A kind that joins categories comes to belong to all categories that lead to one of them. -/
theorem belongs_of_members {kind : String} {joins : Category → Prop}
    (hincludes : ∀ c d, r'.Includes c d ↔ r.Includes c d)
    (hmembers : ∀ c, r'.HasMember c kind ↔ r.HasMember c kind ∨ joins c) (c : Category) :
    r'.Belongs c kind ↔ r.Belongs c kind ∨ ∃ d, r.Leads c d ∧ joins d := by
  have hsame : r'.Includes = r.Includes := by
    funext c d
    exact propext (hincludes c d)
  simp only [Belongs, hsame, hmembers, and_or_left, exists_or]

/-- What belongs to one of the new includes of a category comes to belong to all categories that lead
to it. -/
theorem belongs_of_includes {category : Category} {includes : List Category} {kind : String}
    (hincludes : ∀ c d, r'.Includes c d ↔ r.Includes c d ∨ (c = category ∧ d ∈ includes))
    (hmembers : ∀ c, r'.HasMember c kind ↔ r.HasMember c kind) (c : Category) :
    r'.Belongs c kind ↔
      r.Belongs c kind ∨ (r.Leads c category ∧ ∃ i ∈ includes, r.Belongs i kind) := by
  have hleads : ∀ {c d}, r.Leads c d → r'.Leads c d := fun {c d} =>
    Relation.ReflTransGen.mono (fun c d h => (hincludes c d).2 (Or.inl h)) c d
  have hbelongs : ∀ {c}, r.Belongs c kind → r'.Belongs c kind := by
    rintro c ⟨d, hd, hm⟩
    exact ⟨d, hleads hd, (hmembers d).2 hm⟩
  constructor
  · rintro ⟨d, hd, hm⟩
    -- along the way from its end: a new include starts over at the category, which leads to itself
    induction hd using Relation.ReflTransGen.head_induction_on with
    | refl => exact Or.inl ⟨d, .refl, (hmembers d).1 hm⟩
    | head step _ ih =>
      rcases (hincludes _ _).1 step with step | ⟨rfl, hi⟩
      · rcases ih with hb | ⟨hlead, hfound⟩
        · exact Or.inl (belongs_iff.2 (Or.inr ⟨_, step, hb⟩))
        · exact Or.inr ⟨hlead.head step, hfound⟩
      · rcases ih with hb | ⟨_, hfound⟩
        · exact Or.inr ⟨.refl, _, hi, hb⟩
        · exact Or.inr ⟨.refl, hfound⟩
  · rintro (hb | ⟨hlead, i, hi, hb⟩)
    · exact hbelongs hb
    · obtain ⟨d, hd, hm⟩ := hbelongs hb
      have hstep : r'.Includes category i := (hincludes category i).2 (Or.inr ⟨rfl, hi⟩)
      exact ⟨d, (hleads hlead).trans (hd.head hstep), hm⟩

/-! ### What each addition does -/

theorem belongs_register {category : Category} {kind : String} {new : Bool}
    (h : (r.register category kind).result = .ok new) (c : Category) (k : String) :
    (r.register category kind).registry.Belongs c k ↔
      r.Belongs c k ∨ (k = kind ∧ r.Leads c category) := by
  have hincludes : ∀ c d, (r.register category kind).registry.Includes c d ↔ r.Includes c d :=
    fun c d => (holds_register h (.includes c d)).trans (or_iff_left id)
  rw [belongs_of_members hincludes (fun c => holds_register h (.member c k))]
  refine or_congr_right ⟨?_, ?_⟩
  · rintro ⟨d, hd, rfl, rfl⟩
    exact ⟨rfl, hd⟩
  · rintro ⟨rfl, hd⟩
    exact ⟨category, hd, rfl, rfl⟩

/-- Registering tells whether the kind was not a member of the category itself. -/
theorem register_new_iff {category : Category} {kind : String} {new : Bool}
    (h : (r.register category kind).result = .ok new) : new = true ↔ ¬ r.HasMember category kind := by
  obtain ⟨rfl, hmember, -⟩ | ⟨rfl, entry, hentry, hfresh, -⟩ := register_cases h
  · exact iff_of_false Bool.false_ne_true fun hnot => hnot hmember
  · refine iff_of_true rfl ?_
    rintro ⟨entry', hentry', hmem⟩
    rw [hentry] at hentry'
    cases hentry'
    exact hfresh hmem

theorem belongs_defineCategory {category : Category} {includes : List Category}
    (h : (r.defineCategory category includes).result = .ok ()) (c : Category) (k : String) :
    (r.defineCategory category includes).registry.Belongs c k ↔
      r.Belongs c k ∨ (r.Leads c category ∧ ∃ i ∈ includes, r.Belongs i k) :=
  belongs_of_includes (fun c d => holds_defineCategory h (.includes c d))
    (fun c => (holds_defineCategory h (.member c k)).trans (or_iff_left id)) c

theorem belongs_define (hr : Consistent r) {definition : KindDef}
    (h : (r.define definition).result = .ok ()) (c : Category) (k : String) :
    (r.define definition).registry.Belongs c k ↔
      r.Belongs c k ∨ (k = definition.kind ∧ ∃ d ∈ definition.memberOf, r.Leads c d) := by
  have hincludes : ∀ c d, (r.define definition).registry.Includes c d ↔ r.Includes c d :=
    fun c d => (holds_define hr h (.includes c d)).trans (or_iff_left id)
  rw [belongs_of_members hincludes (fun c => holds_define hr h (.member c k))]
  refine or_congr_right ⟨?_, ?_⟩
  · rintro ⟨d, hd, hjoin, rfl⟩
    exact ⟨rfl, d, hjoin, hd⟩
  · rintro ⟨rfl, d, hjoin, hd⟩
    exact ⟨d, hd, hjoin, rfl⟩

/-- An accepted definition of a new kind is stored, and those of the other kinds are left alone. -/
theorem kind?_define {definition : KindDef} (h : (r.define definition).result = .ok ()) :
    (r.kind? definition.kind = none →
      (r.define definition).registry.kind? definition.kind = some definition) ∧
      ∀ k, k ≠ definition.kind → (r.define definition).registry.kind? k = r.kind? k := by
  obtain ⟨existing, hexisting, -, hregistry⟩ | ⟨-, -, hregistry⟩ := define_cases h
  · rw [hregistry]
    exact ⟨fun hnone => absurd (hexisting.symm.trans hnone) nofun, fun _ _ => rfl⟩
  · rw [hregistry]
    refine ⟨fun _ => by rw [kind?_setKind, if_pos rfl], fun k hk => ?_⟩
    rw [kind?_setKind, if_neg hk, kind?, kinds_registerInto, kind?]

end Registry

/-- What each addition that succeeds does to membership, whatever the includes are. Registering a kind
makes it belong to what leads to its category, and tells whether it was a member of the category itself.
Giving a category includes makes what belongs to them belong to what leads to the category; if it is new,
that is the category alone. Defining a kind makes it belong to what leads to one of its categories, and
nothing changes for the other kinds. -/
theorem membership_effect (r : Registry) (hr : r.Reachable) :
    (∀ category kind new, (r.register category kind).result = .ok new →
      (new = true ↔ ¬ r.HasMember category kind) ∧
      ∀ c k, (r.register category kind).registry.contains c k = .ok true ↔
        r.contains c k = .ok true ∨ (k = kind ∧ r.Leads c category)) ∧
    (∀ category includes, (r.defineCategory category includes).result = .ok () →
      (r.hasCategory category = false → ∀ c, r.Leads c category ↔ c = category) ∧
      ∀ c k, (r.defineCategory category includes).registry.contains c k = .ok true ↔
        r.contains c k = .ok true ∨
          (r.Leads c category ∧ ∃ i ∈ includes, r.contains i k = .ok true)) ∧
    ∀ definition, (r.define definition).result = .ok () →
      let r' := (r.define definition).registry
      (∀ c k, r'.contains c k = .ok true ↔ r.contains c k = .ok true ∨
        (k = definition.kind ∧ ∃ d ∈ definition.memberOf, r.Leads c d)) ∧
      (r.kind? definition.kind = none → r'.kind? definition.kind = some definition) ∧
      ∀ k, k ≠ definition.kind → (∀ c, r'.contains c k = r.contains c k) ∧ r'.kind? k = r.kind? k := by
  have hwell := hr.wellFormed
  refine ⟨?_, ?_, ?_⟩
  · intro category kind new h
    have hwell' := Registry.Steps.wellFormed (r.steps_register category kind) hwell
    refine ⟨Registry.register_new_iff h, fun c k => ?_⟩
    rw [Registry.contains_eq_true_iff hwell', Registry.contains_eq_true_iff hwell,
      Registry.belongs_register h]
  · intro category includes h
    have hwell' := Registry.Steps.wellFormed (r.steps_defineCategory category includes) hwell
    refine ⟨fun hnew c => hwell.leads_undefined hnew, fun c k => ?_⟩
    simp only [Registry.contains_eq_true_iff hwell', Registry.contains_eq_true_iff hwell,
      Registry.belongs_defineCategory h]
  · intro definition h r'
    have hwell' : r'.WellFormed := Registry.Steps.wellFormed (r.steps_define definition) hwell
    have hbelongs := Registry.belongs_define hr.consistent h
    obtain ⟨hstored, hothers⟩ := Registry.kind?_define h
    refine ⟨fun c k => ?_, hstored, fun k hk => ⟨fun c => ?_, hothers k hk⟩⟩
    · rw [Registry.contains_eq_true_iff hwell', Registry.contains_eq_true_iff hwell, hbelongs]
    · have hcategory := (Registry.holds_define hr.consistent h (.category c)).trans (or_iff_left id)
      refine Registry.contains_eq hwell' hwell (Bool.eq_iff_iff.2 hcategory) ?_
      rw [hbelongs, or_iff_left fun hnew => hk hnew.1]

/-- Lists and blocks include each other; a member, an include and a kind are added within the circle, and
a new category is put on top of it. -/
theorem membership_effect_cycle :
    let r := Registry.empty.after [.defineCategory .block [], .defineCategory .list [.block],
      .defineCategory .block [.list], .defineCategory .table [], .register .table "tableRow"]
    let line : KindDef := { KindDef.leaf "line" with memberOf := [.list, .table] }
    r.Reachable ∧ r.Includes .block .list ∧ r.Includes .list .block ∧
      (r.register .list "listItem").result = .ok true ∧
      (r.defineCategory .list [.table]).result = .ok () ∧
      (r.defineCategory .row [.block]).result = .ok () ∧ r.hasCategory .row = false ∧
      (r.define line).result = .ok () ∧ r.kind? "line" = none ∧
      (∀ c k, (r.register .list "listItem").registry.contains c k = .ok true ↔
        r.contains c k = .ok true ∨ (k = "listItem" ∧ r.Leads c .list)) ∧
      (∀ c k, (r.defineCategory .list [.table]).registry.contains c k = .ok true ↔
        r.contains c k = .ok true ∨ (r.Leads c .list ∧ ∃ i ∈ [Category.table], r.contains i k = .ok true)) ∧
      (∀ c, r.Leads c .row ↔ c = .row) ∧
      (∀ c k, (r.define line).registry.contains c k = .ok true ↔ r.contains c k = .ok true ∨
        (k = "line" ∧ ∃ d ∈ [Category.list, .table], r.Leads c d)) ∧
      (r.define line).registry.kind? "line" = some line := by
  intro r line
  have hr : r.Reachable := ⟨_, Or.inl rfl⟩
  have hblock : r.categories.get? .block = some ⟨[], [.list]⟩ := rfl
  have hlist : r.categories.get? .list = some ⟨[], [.block]⟩ := rfl
  have hregister : (r.register .list "listItem").result = .ok true := rfl
  have hinclude : (r.defineCategory .list [.table]).result = .ok () := rfl
  have hcreate : (r.defineCategory .row [.block]).result = .ok () := rfl
  have hrow : r.hasCategory .row = false := by decide
  have hdefine : (r.define line).result = .ok () := by decide
  have hnone : r.kind? "line" = none := rfl
  obtain ⟨hmember, hcategory, hkind⟩ := membership_effect r hr
  exact ⟨hr, ⟨_, hblock, by decide⟩, ⟨_, hlist, by decide⟩, hregister, hinclude, hcreate, hrow, hdefine,
    hnone, (hmember _ _ _ hregister).2, (hcategory _ _ hinclude).2, (hcategory _ _ hcreate).1 hrow,
    (hkind line hdefine).1, (hkind line hdefine).2.1 hnone⟩

/-! ### What an addition leaves alone -/

namespace Registry

variable {r : Registry} {error : RegistryError}

theorem defineCategory_error {category : Category} {includes : List Category}
    (h : (r.defineCategory category includes).result = .error error) :
    (r.defineCategory category includes).registry = r := by
  unfold defineCategory at h ⊢
  split at h
  · rfl
  · cases h

theorem register_error {category : Category} {kind : String}
    (h : (r.register category kind).result = .error error) :
    (r.register category kind).registry = r := by
  unfold register at h ⊢
  split at h
  · rfl
  · split at h <;> cases h

/-- A definition is refused before the kind joins the first of its categories. -/
theorem define_error {definition : KindDef} (h : (r.define definition).result = .error error) :
    (r.define definition).registry = r := by
  unfold define at h ⊢
  cases hmissing : r.undefined? definition.categories with
  | some missing => rfl
  | none =>
    cases hkind : r.kind? definition.kind with
    | some existing =>
      by_cases hsame : existing.sameAs definition = true
      · simp only [if_pos hsame]
      · simp only [if_neg hsame]
        rfl
    | none =>
      have hdefined := undefined?_eq_none.1 hmissing
      obtain ⟨hok, -⟩ := registerInto_ok definition.kind definition.memberOf r
        fun c hc => hdefined c (List.mem_append_right _ hc)
      simp only [hmissing, hkind, Outcome.andThen, hok] at h
      cases h

end Registry

namespace Mutation

open Registry

variable {r : Registry}

/-- An addition that is refused leaves the registry as it was. -/
theorem registry_of_error {m : Mutation} {error : RegistryError}
    (h : (m.apply r).result = .error error) : (m.apply r).registry = r := by
  cases m with
  | defineCategory category includes => exact defineCategory_error h
  | register category kind =>
    rw [apply, Outcome.andThen] at h ⊢
    cases hresult : (r.register category kind).result with
    | ok new => simp only [hresult] at h; cases h
    | error error => exact register_error hresult
  | define definition => exact define_error h

/-- A fact that an addition does not contribute is as it was before, whether or not it succeeds. -/
theorem holds_apply_of_not_contributes (hr : Consistent r) {m : Mutation} {fact : Fact}
    (hm : ¬ m.Contributes fact) : (m.apply r).registry.Holds fact ↔ r.Holds fact := by
  cases hresult : (m.apply r).result with
  | ok _ => rw [holds_apply hr hresult, or_iff_left hm]
  | error error => rw [registry_of_error hresult]

/-- A fact that none of the additions of a history contributes is as it was before. -/
theorem holds_after (fact : Fact) : ∀ {history : List Mutation} {r : Registry}, Consistent r →
    (∀ m ∈ history, ¬ m.Contributes fact) → ((r.after history).Holds fact ↔ r.Holds fact)
  | [], _, _, _ => Iff.rfl
  | m :: history, r, hr, h => by
    rw [List.forall_mem_cons] at h
    have hnext := Steps.consistent (m.steps_apply r) hr
    exact (holds_after fact hnext h.2).trans (holds_apply_of_not_contributes hr h.1)

/-- A definition was there before a history, or the history adds it. -/
theorem defined_after {kind : String} {d : KindDef} : ∀ {history : List Mutation} {r : Registry},
    (r.after history).kind? kind = some d → r.kind? kind = some d ∨ .define d ∈ history
  | [], _, hd => Or.inl hd
  | m :: history, r, hd => by
    rcases defined_after (r := (m.apply r).registry) hd with hd | hmem
    · cases hresult : (m.apply r).result with
      | ok _ =>
        rcases kind?_apply hresult hd with hd | rfl
        · exact Or.inl hd
        · exact Or.inr List.mem_cons_self
      | error error => exact Or.inl (registry_of_error hresult ▸ hd)
    · exact Or.inr (List.mem_cons_of_mem m hmem)

end Mutation

end WikiDoc
