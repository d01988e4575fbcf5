import WikiDoc.Proofs.Kind.Sameness
import WikiDoc.Proofs.Registry.Consistency

/-!
What additions contribute to a registry.

What a registry holds can be said in single facts: a category is defined, it includes another one, it
has a member, a kind is defined. An addition that succeeds contributes certain facts, whatever the
registry is (`Mutation.Contributes`), and the registry then holds these and what it held before
(`Mutation.holds_apply`). So what it holds after a run does not depend on the order of the run
(`Mutation.holds_applyAll`). The definition of a kind does: it is the first one that came. But all later
ones were taken for the same, or they would have been refused (`Mutation.sameAs_applyAll`).
-/

namespace WikiDoc

/-- A single thing that a registry may hold. -/
inductive Fact where
  /-- The category is defined. -/
  | category (c : Category)
  /-- The first category includes the second one directly. -/
  | includes (c d : Category)
  /-- The kind was registered into the category. -/
  | member (c : Category) (kind : String)
  /-- The kind has a definition. -/
  | kind (kind : String)

/-- The registry holds the fact. -/
def Registry.Holds (r : Registry) : Fact → Prop
  | .category c => r.hasCategory c
  | .includes c d => r.Includes c d
  | .member c kind => r.HasMember c kind
  | .kind kind => (r.kind? kind).isSome

/-- The addition contributes the fact. -/
def Mutation.Contributes : Mutation → Fact → Prop
  | .defineCategory category _, .category c => c = category
  | .defineCategory category includes, .includes c d => c = category ∧ d ∈ includes
  | .register category kind, .member c k => c = category ∧ k = kind
  | .define d, .member c k => c ∈ d.memberOf ∧ k = d.kind
  | .define d, .kind k => k = d.kind
  | _, _ => False

/-- An outcome that goes on without an error went on from one without an error. -/
theorem Outcome.andThen_ok {α β : Type} {first : Outcome α} {next : α → Registry → Outcome β} {b : β}
    (h : (first.andThen next).result = .ok b) : ∃ a, first.result = .ok a ∧
      (next a first.registry).result = .ok b ∧
      (first.andThen next).registry = (next a first.registry).registry := by
  unfold andThen at h ⊢
  cases hfirst : first.result with
  | error error =>
    simp only [hfirst] at h
    cases h
  | ok a =>
    simp only [hfirst] at h
    exact ⟨a, rfl, h, rfl⟩

namespace Registry

variable {r : Registry}

/-! ### Entries -/

/-- What is true of the entry of a category, but not of the empty one, is true of an entry that the
category has. -/
theorem entryOf_iff {P : CategoryEntry → Prop} (hempty : ¬ P {}) {c : Category} :
    P (r.entryOf c) ↔ ∃ entry, r.categories.get? c = some entry ∧ P entry := by
  rw [entryOf]
  cases r.categories.get? c with
  | none => simp [hempty]
  | some entry => simp

theorem mem_members_entryOf {c : Category} {kind : String} :
    kind ∈ (r.entryOf c).members ↔ r.HasMember c kind :=
  entryOf_iff (P := fun entry => kind ∈ entry.members) List.not_mem_nil

theorem mem_includes_entryOf {c d : Category} : d ∈ (r.entryOf c).includes ↔ r.Includes c d :=
  entryOf_iff (P := fun entry => d ∈ entry.includes) List.not_mem_nil

/-- Setting the entry of a category decides what is true of it, and of no other category. -/
theorem exists_get?_setEntry {P : CategoryEntry → Prop} {c c' : Category} {entry : CategoryEntry} :
    (∃ e, (r.setEntry c entry).categories.get? c' = some e ∧ P e) ↔
      if c' = c then P entry else ∃ e, r.categories.get? c' = some e ∧ P e := by
  rw [get?_setEntry]
  by_cases hc : c' = c
  · simp [hc]
  · simp [hc]

theorem includes_setEntry {c c' d : Category} {entry : CategoryEntry} :
    (r.setEntry c entry).Includes c' d ↔ if c' = c then d ∈ entry.includes else r.Includes c' d :=
  exists_get?_setEntry

theorem hasMember_setEntry {c c' : Category} {entry : CategoryEntry} {kind : String} :
    (r.setEntry c entry).HasMember c' kind ↔
      if c' = c then kind ∈ entry.members else r.HasMember c' kind :=
  exists_get?_setEntry

theorem hasCategory_setEntry {c c' : Category} {entry : CategoryEntry} :
    (r.setEntry c entry).hasCategory c' ↔ r.hasCategory c' ∨ c' = c := by
  rw [hasCategory_iff, hasCategory_iff, get?_setEntry]
  by_cases hc : c' = c
  · simp [hc]
  · simp [hc]

/-! ### What an addition that succeeds does -/

theorem defineCategory_registry {category : Category} {includes : List Category}
    (h : (r.defineCategory category includes).result = .ok ()) :
    (r.defineCategory category includes).registry = r.setEntry category
      { r.entryOf category with includes := includes.foldl addNew (r.entryOf category).includes } := by
  unfold defineCategory at h ⊢
  split at h
  · cases h
  · rfl

/-- Registering a kind leaves the registry alone if it is a member, and else makes it the last one. -/
theorem register_cases {category : Category} {kind : String} {new : Bool}
    (h : (r.register category kind).result = .ok new) :
    (new = false ∧ r.HasMember category kind ∧ (r.register category kind).registry = r) ∨
      (new = true ∧ ∃ entry, r.categories.get? category = some entry ∧ kind ∉ entry.members ∧
        (r.register category kind).registry =
          r.setEntry category { entry with members := entry.members ++ [kind] }) := by
  unfold register at h ⊢
  split at h
  · cases h
  · next entry hentry =>
    split at h
    · next hmem =>
      cases h
      refine Or.inl ⟨rfl, ⟨entry, hentry, hmem⟩, ?_⟩
      rw [if_pos hmem]
    · next hmem =>
      cases h
      refine Or.inr ⟨rfl, entry, hentry, hmem, ?_⟩
      rw [if_neg hmem]
      rfl

/-- Defining a kind leaves the registry alone if it has the same definition, and else makes it a member
of its categories and stores the definition. -/
theorem define_cases {d : KindDef} (h : (r.define d).result = .ok ()) :
    (∃ existing, r.kind? d.kind = some existing ∧ existing.sameAs d = true ∧
        (r.define d).registry = r) ∨
      (r.kind? d.kind = none ∧ (r.registerInto d.kind d.memberOf).result = .ok () ∧
        (r.define d).registry = (r.registerInto d.kind d.memberOf).registry.setKind d) := by
  unfold define at h ⊢
  split at h
  · cases h
  · cases hkind : r.kind? d.kind with
    | some existing =>
      simp only [hkind] at h ⊢
      by_cases hsame : existing.sameAs d = true
      · rw [if_pos hsame]
        exact Or.inl ⟨existing, rfl, hsame, rfl⟩
      · rw [if_neg hsame] at h
        cases h
    | none =>
      simp only [hkind] at h ⊢
      obtain ⟨_, hinto, _, hregistry⟩ := Outcome.andThen_ok h
      exact Or.inr ⟨trivial, hinto, hregistry⟩

/-! ### Single additions -/

/-- A category that is defined gets its includes, and nothing else changes. -/
theorem holds_defineCategory {category : Category} {includes : List Category}
    (h : (r.defineCategory category includes).result = .ok ()) (fact : Fact) :
    (r.defineCategory category includes).registry.Holds fact ↔
      r.Holds fact ∨ (Mutation.defineCategory category includes).Contributes fact := by
  rw [defineCategory_registry h]
  cases fact with
  | category c => exact hasCategory_setEntry
  | includes c d =>
    rw [Holds, Holds, includes_setEntry, Mutation.Contributes]
    split
    · next hc => rw [mem_foldl_addNew, mem_includes_entryOf, hc]; simp
    · next hc => simp [hc]
  | member c kind =>
    change _ ↔ r.HasMember c kind ∨ False
    rw [Holds, hasMember_setEntry, or_false]
    split
    · next hc => rw [mem_members_entryOf, hc]
    · rfl
  | kind kind => exact (or_iff_left id).symm

/-- A kind that is registered is a member of its category, and nothing else changes. -/
theorem holds_register {category : Category} {kind : String} {new : Bool}
    (h : (r.register category kind).result = .ok new) (fact : Fact) :
    (r.register category kind).registry.Holds fact ↔
      r.Holds fact ∨ (Mutation.register category kind).Contributes fact := by
  obtain ⟨-, hmember, hregistry⟩ | ⟨-, entry, hentry, -, hregistry⟩ := register_cases h
  · rw [hregistry]
    refine (or_iff_left_of_imp ?_).symm
    intro hcontributes
    cases fact with
    | member c k => obtain ⟨rfl, rfl⟩ := hcontributes; exact hmember
    | _ => cases hcontributes
  · have hentryOf : r.entryOf category = entry := by rw [entryOf, hentry]; rfl
    rw [hregistry]
    cases fact with
    | category c =>
      change _ ↔ r.hasCategory c ∨ False
      rw [Holds, hasCategory_setEntry, or_false, or_iff_left_of_imp]
      rintro rfl
      exact hasCategory_iff.2 ⟨entry, hentry⟩
    | includes c d =>
      change _ ↔ r.Includes c d ∨ False
      rw [Holds, includes_setEntry, or_false]
      split
      · next hc => rw [hc, ← mem_includes_entryOf, hentryOf]
      · rfl
    | member c k =>
      rw [Holds, Holds, hasMember_setEntry, Mutation.Contributes]
      split
      · next hc => rw [hc, ← mem_members_entryOf, hentryOf]; simp
      · next hc => simp [hc]
    | kind k => exact (or_iff_left id).symm

/-- A kind that is registered into categories is a member of all of them. -/
theorem holds_registerInto {kind : String} (fact : Fact) : ∀ {categories : List Category} {r : Registry},
    (r.registerInto kind categories).result = .ok () →
    ((r.registerInto kind categories).registry.Holds fact ↔
      r.Holds fact ∨ ∃ c ∈ categories, (Mutation.register c kind).Contributes fact)
  | [], r, _ => by simp [registerInto]
  | category :: rest, r, h => by
    obtain ⟨new, hfirst, hrest, hregistry⟩ := Outcome.andThen_ok h
    rw [registerInto, hregistry, holds_registerInto fact hrest, holds_register hfirst, or_assoc]
    simp only [List.mem_cons, exists_eq_or_imp]

theorem kinds_registerInto (kind : String) : ∀ (categories : List Category) (r : Registry),
    (r.registerInto kind categories).registry.kinds = r.kinds
  | [], _ => rfl
  | category :: rest, r => by
    rw [registerInto, Outcome.andThen]
    split
    · exact (kinds_registerInto kind rest _).trans (kinds_register r category kind)
    · exact kinds_register r category kind

/-- A kind that is defined has its definition, and nothing else changes. -/
theorem holds_setKind {d : KindDef} (fact : Fact) : (r.setKind d).Holds fact ↔
    r.Holds fact ∨ fact = .kind d.kind := by
  cases fact with
  | kind kind =>
    rw [Holds, Holds, kind?_setKind, Fact.kind.injEq]
    split
    · next hkind => simp [hkind]
    · next hkind => simp [hkind]
  | _ => exact (or_iff_left nofun).symm

/-- A definition that is accepted contributes its kind and the memberships of the kind. -/
theorem holds_define (hr : Consistent r) {d : KindDef} (h : (r.define d).result = .ok ())
    (fact : Fact) : (r.define d).registry.Holds fact ↔
      r.Holds fact ∨ (Mutation.define d).Contributes fact := by
  obtain ⟨existing, hexisting, hsame, hregistry⟩ | ⟨-, hinto, hregistry⟩ := define_cases h
  · -- the kind joined its categories when it got the definition that it has
    obtain ⟨-, -, -, -, hmemberOf, -, -⟩ := KindDef.sameAs_iff.1 hsame
    rw [hregistry]
    refine (or_iff_left_of_imp ?_).symm
    intro hcontributes
    cases fact with
    | member c k =>
      obtain ⟨hc, rfl⟩ := hcontributes
      exact hr.joined d.kind existing hexisting c (hmemberOf ▸ hc)
    | kind k =>
      cases hcontributes
      exact Option.isSome_iff_exists.2 ⟨existing, hexisting⟩
    | _ => cases hcontributes
  · rw [hregistry, holds_setKind, holds_registerInto fact hinto, or_assoc]
    refine or_congr_right ?_
    cases fact <;> simp [Mutation.Contributes]

end Registry

namespace Mutation

open Registry

variable {r : Registry}

theorem apply_register {category : Category} {kind : String}
    (h : ((Mutation.register category kind).apply r).result = .ok ()) :
    (∃ new, (r.register category kind).result = .ok new) ∧
      ((Mutation.register category kind).apply r).registry = (r.register category kind).registry := by
  obtain ⟨new, hnew, -, hregistry⟩ := Outcome.andThen_ok h
  exact ⟨⟨new, hnew⟩, hregistry⟩

/-- After an addition that succeeds, the registry holds what it held and what the addition
contributes. -/
theorem holds_apply (hr : Consistent r) {m : Mutation} (h : (m.apply r).result = .ok ())
    (fact : Fact) : (m.apply r).registry.Holds fact ↔ r.Holds fact ∨ m.Contributes fact := by
  cases m with
  | defineCategory category includes => exact holds_defineCategory h fact
  | register category kind =>
    obtain ⟨⟨new, hnew⟩, hregistry⟩ := apply_register h
    rw [hregistry]
    exact holds_register hnew fact
  | define d => exact holds_define hr h fact

/-- A definition that the registry has after an addition was there before or is the one added. -/
theorem kind?_apply {m : Mutation} (h : (m.apply r).result = .ok ()) {kind : String} {d : KindDef}
    (hd : (m.apply r).registry.kind? kind = some d) : r.kind? kind = some d ∨ m = .define d := by
  cases m with
  | defineCategory category includes =>
    rw [apply, defineCategory_registry h] at hd
    exact Or.inl hd
  | register category kind' =>
    rw [(apply_register h).2, Registry.kind?, kinds_register] at hd
    exact Or.inl hd
  | define d' =>
    obtain ⟨_, _, _, hregistry⟩ | ⟨_, _, hregistry⟩ := define_cases h
    · exact Or.inl (hregistry ▸ hd)
    · rw [apply, hregistry, kind?_setKind] at hd
      split at hd
      · cases hd
        exact Or.inr rfl
      · rw [Registry.kind?, kinds_registerInto] at hd
        exact Or.inl hd

/-- After a definition was accepted, the kind has one that is taken for the same. -/
theorem sameAs_apply {d : KindDef} (h : ((Mutation.define d).apply r).result = .ok ()) :
    ∃ existing, ((Mutation.define d).apply r).registry.kind? d.kind = some existing ∧
      existing.sameAs d = true := by
  obtain ⟨existing, hexisting, hsame, hregistry⟩ | ⟨_, _, hregistry⟩ := define_cases h
  · exact ⟨existing, by rw [apply, hregistry, hexisting], hsame⟩
  · exact ⟨d, by rw [apply, hregistry, kind?_setKind, if_pos rfl], KindDef.sameAs_refl d⟩

/-! ### Runs -/

theorem applyAll_cons {m : Mutation} {rest : List Mutation}
    (h : (applyAll r (m :: rest)).result = .ok ()) : (m.apply r).result = .ok () ∧
      (applyAll (m.apply r).registry rest).result = .ok () ∧
      (applyAll r (m :: rest)).registry = (applyAll (m.apply r).registry rest).registry := by
  obtain ⟨_, hfirst, hrest, hregistry⟩ := Outcome.andThen_ok h
  exact ⟨hfirst, hrest, hregistry⟩

/-- After additions that all succeed, the registry holds what it held and what they contribute. -/
theorem holds_applyAll (fact : Fact) : ∀ {ops : List Mutation} {r : Registry}, Consistent r →
    (applyAll r ops).result = .ok () →
    ((applyAll r ops).registry.Holds fact ↔ r.Holds fact ∨ ∃ m ∈ ops, m.Contributes fact)
  | [], r, _, _ => by simp [applyAll]
  | m :: rest, r, hr, h => by
    obtain ⟨hfirst, hrest, hregistry⟩ := applyAll_cons h
    have hnext := Steps.consistent (m.steps_apply r) hr
    rw [hregistry, holds_applyAll fact hnext hrest, holds_apply hr hfirst, or_assoc]
    simp only [List.mem_cons, exists_eq_or_imp]

/-- A definition that the registry has after a run was there before or is one of those added. -/
theorem kind?_applyAll {kind : String} {d : KindDef} : ∀ {ops : List Mutation} {r : Registry},
    (applyAll r ops).result = .ok () → (applyAll r ops).registry.kind? kind = some d →
    r.kind? kind = some d ∨ .define d ∈ ops
  | [], _, _, hd => Or.inl hd
  | m :: rest, r, h, hd => by
    obtain ⟨hfirst, hrest, hregistry⟩ := applyAll_cons h
    rw [hregistry] at hd
    rcases kind?_applyAll hrest hd with hd | hmem
    · rcases kind?_apply hfirst hd with hd | rfl
      · exact Or.inl hd
      · exact Or.inr List.mem_cons_self
    · exact Or.inr (List.mem_cons_of_mem m hmem)

/-- All definitions that a run adds for a kind are taken for the same as the one it has in the end. -/
theorem sameAs_applyAll {d : KindDef} : ∀ {ops : List Mutation} {r : Registry},
    (applyAll r ops).result = .ok () → .define d ∈ ops →
    ∃ existing, (applyAll r ops).registry.kind? d.kind = some existing ∧ existing.sameAs d = true
  | m :: rest, r, h, hmem => by
    obtain ⟨hfirst, hrest, hregistry⟩ := applyAll_cons h
    rw [hregistry]
    rcases List.mem_cons.1 hmem with rfl | hmem
    · obtain ⟨existing, hexisting, hsame⟩ := sameAs_apply hfirst
      exact ⟨existing, (Steps.grows (steps_applyAll rest _)).kind? hexisting, hsame⟩
    · exact sameAs_applyAll hrest hmem

end Mutation

end WikiDoc
