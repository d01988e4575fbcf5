import WikiDoc.Kind.Extension
import WikiDoc.Proofs.Registry.Lookup
import WikiDoc.Proofs.Registry.Members
import WikiDoc.Proofs.Validation.Exactness

/-!
Registries are never misconfigured.

A registry is consistent when all categories that it refers to are defined, every definition is stored
under its own kind, every defined kind is a member of the categories that its definition joins, and
nothing is listed twice in a category (`Consistent`). Each single step of growth keeps this
(`Consistent.step`), so it holds of every registry that additions lead to, refused ones among them. Then
nothing that looks something up in the registry can fail: neither its own check, nor a validation, nor
a search for members.
-/

namespace WikiDoc

namespace Registry

/-- What every registry guarantees that additions lead to. -/
structure Consistent (r : Registry) : Prop extends WellFormed r where
  /-- A definition is stored under its kind. -/
  keyed : ∀ kind d, r.kind? kind = some d → d.kind = kind
  /-- A defined kind was registered into every category that its definition joins. -/
  joined : ∀ kind d, r.kind? kind = some d → ∀ c ∈ d.memberOf, r.HasMember c kind
  /-- No category lists a member or an include twice. -/
  nodup : ∀ c e, r.categories.get? c = some e → e.members.Nodup ∧ e.includes.Nodup

variable {r r' : Registry}

theorem consistent_empty : Consistent empty := ⟨wellFormed_empty, nofun, nofun, nofun⟩

/-- The entry of a category lists nothing twice; that of an undefined one lists nothing. -/
theorem Consistent.nodup_entryOf (hr : Consistent r) (c : Category) :
    (r.entryOf c).members.Nodup ∧ (r.entryOf c).includes.Nodup := by
  rw [entryOf]
  cases hc : r.categories.get? c with
  | none => exact ⟨List.nodup_nil, List.nodup_nil⟩
  | some entry => exact hr.nodup c entry hc

/-- A registry with a new entry lists nothing twice if the entry does not. -/
theorem Consistent.nodup_setEntry (hr : Consistent r) {c : Category} {entry : CategoryEntry}
    (hm : entry.members.Nodup) (hi : entry.includes.Nodup) :
    ∀ c' e, (r.setEntry c entry).categories.get? c' = some e → e.members.Nodup ∧ e.includes.Nodup := by
  intro c' e he
  rw [get?_setEntry] at he
  split at he
  · cases he
    exact ⟨hm, hi⟩
  · exact hr.nodup c' e he

theorem Consistent.step (hr : Consistent r) (h : Adds r r') : Consistent r' := by
  have hgrows := h.grows
  have hwell := hr.toWellFormed.step h
  cases h with
  | category category includes _ =>
    obtain ⟨hm, hi⟩ := hr.nodup_entryOf category
    refine ⟨hwell, hr.keyed, fun kind d hd c hc => hgrows.hasMember (hr.joined kind d hd c hc), ?_⟩
    exact hr.nodup_setEntry hm (nodup_foldl_addNew includes hi)
  | member category entry kind defined fresh =>
    obtain ⟨hm, hi⟩ := hr.nodup category entry defined
    have hnew : entry.members ++ [kind] = addNew entry.members kind := (if_neg fresh).symm
    refine ⟨hwell, hr.keyed, fun kind d hd c hc => hgrows.hasMember (hr.joined kind d hd c hc), ?_⟩
    exact hr.nodup_setEntry (hnew ▸ nodup_addNew hm kind) hi
  | kind d _ _ joined =>
    refine ⟨hwell, ?_, ?_, hr.nodup⟩
    · intro kind d' hd
      rw [kind?_setKind] at hd
      split at hd
      · next hkind => cases hd; exact hkind.symm
      · exact hr.keyed kind d' hd
    · intro kind d' hd c hc
      rw [kind?_setKind] at hd
      split at hd
      · next hkind => cases hd; exact hkind ▸ joined c hc
      · exact hr.joined kind d' hd c hc

theorem Steps.consistent (h : Steps r r') (hr : Consistent r) : Consistent r' := by
  induction h with
  | refl => exact hr
  | tail _ step ih => exact ih.step step

theorem Reachable.consistent (h : r.Reachable) : Consistent r :=
  Steps.consistent h.steps consistent_empty

theorem mem_values_kinds {d : KindDef} : d ∈ r.kinds.values ↔ ∃ kind, r.kind? kind = some d := by
  rw [OrderedMap.values, List.mem_map]
  constructor
  · rintro ⟨⟨kind, _⟩, hmem, rfl⟩
    exact ⟨kind, (OrderedMap.get?_eq_some_iff ..).2 hmem⟩
  · rintro ⟨kind, hd⟩
    exact ⟨(kind, d), (OrderedMap.get?_eq_some_iff ..).1 hd, rfl⟩

/-- The check passes exactly when all categories that are referred to are defined. -/
theorem check_eq_ok_iff : r.check = .ok () ↔ WellFormed r := by
  rw [check, Lookup.check, Lookup.andThen_eq_ok_iff, Lookup.forEach_eq_ok_iff, Lookup.forEach_eq_ok_iff]
  simp only [Lookup.forEach_eq_ok_iff, Lookup.defined_eq_ok_iff]
  constructor
  · rintro ⟨hcategories, hkinds⟩
    refine ⟨fun c e he => hcategories (c, e) ((OrderedMap.get?_eq_some_iff ..).1 he), ?_⟩
    exact fun kind d hd => hkinds d (mem_values_kinds.2 ⟨kind, hd⟩)
  · rintro ⟨hincludes, hkinds⟩
    refine ⟨fun entry he => hincludes entry.1 entry.2 ((OrderedMap.get?_eq_some_iff ..).2 he), ?_⟩
    intro d hd
    obtain ⟨kind, hkind⟩ := mem_values_kinds.1 hd
    exact hkinds kind d hkind

end Registry

/-- Whatever is asked of a registry, it stays consistent, and so its check passes, no validation ends in
a fault, and no search for members in a defined category fails. -/
theorem registry_never_misconfigured (r : Registry) (hr : r.Reachable) :
    r.Consistent ∧ r.check = .ok () ∧
      (∀ options tree, ∃ report, (Validator.mk r options).validate tree = .ok report) ∧
      ∀ c, r.hasCategory c = true → (∃ members, r.membersOf c = .ok members) ∧
        ∀ kind, ∃ found, r.contains c kind = .ok found := by
  have hwell := hr.wellFormed
  refine ⟨hr.consistent, Registry.check_eq_ok_iff.2 hwell, ?_, ?_⟩
  · exact fun options tree => ⟨_, Validator.validate_eq (v := ⟨r, options⟩) hwell tree⟩
  · intro c hc
    obtain ⟨members, hmembers, _⟩ := Registry.membersOf_ok hwell hc
    refine ⟨⟨members, hmembers⟩, fun kind => ?_⟩
    obtain ⟨found, hfound, _⟩ := Registry.contains_ok hwell hc kind
    exact ⟨found, hfound⟩

/-- Verse that includes itself, a leaf that asks for children and joins verse twice, a conflicting
definition, and additions that name an undefined category. -/
theorem registry_never_misconfigured_verse :
    let line : KindDef :=
      { KindDef.leaf "line" with content := some .block, memberOf := [Extension.verse, Extension.verse] }
    let r := Registry.baseline.after [.define Extension.stanzaDef, .defineCategory Extension.verse [],
      .defineCategory Extension.verse [Extension.verse, .phrasing, Extension.verse], .define line,
      .define (KindDef.leaf "line"), .register Extension.verse "line", .define Extension.stanzaDef,
      .defineCategory ⟨"prose"⟩ [Extension.verse, ⟨"lyrics"⟩], .register ⟨"lyrics"⟩ "line"]
    r.Reachable ∧ r.Consistent ∧ r.check = .ok () ∧
      (∀ options tree, ∃ report, (Validator.mk r options).validate tree = .ok report) ∧
      ∀ c, r.hasCategory c = true → (∃ members, r.membersOf c = .ok members) ∧
        ∀ kind, ∃ found, r.contains c kind = .ok found :=
  ⟨⟨_, Or.inr rfl⟩, registry_never_misconfigured _ ⟨_, Or.inr rfl⟩⟩

end WikiDoc
