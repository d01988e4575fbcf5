import WikiDoc.Proofs.Registry.Closure

/-!
The members of a category, listed.

`membersOf` lists every kind that belongs to the category, each once, and nothing else: a listed kind
was met in a category that includes lead to (`belongs_of_collectMembers`), and a kind that is left out
is in none of them (`not_belongs_of_collectMembers`). `contains` goes through the includes in another
order and stops early, but both agree with `Belongs` and hence with each other (`membership_closure`).
Each of them recurses on the work that is left, which shrinks whatever the includes are, so both end.
-/

namespace WikiDoc

namespace Registry

variable {r : Registry} {kind : String} {seen pending : List Category} {found members : List String}

/-- What was found stays in front. -/
theorem prefix_collectMembers (h : (Lookup.collectMembers r seen found pending).result = .ok members) :
    found <+: members := by
  fun_induction Lookup.collectMembers r seen found pending with
  | case1 => cases h; exact List.prefix_refl _
  | case2 seen found category rest hseen ih => exact ih h
  | case3 => cases h
  | case4 seen found category rest hseen e log he ih =>
    exact (prefix_foldl_addNew e.members found).trans (ih h)

theorem nodup_collectMembers (hfound : found.Nodup)
    (h : (Lookup.collectMembers r seen found pending).result = .ok members) : members.Nodup := by
  fun_induction Lookup.collectMembers r seen found pending with
  | case1 => cases h; exact hfound
  | case2 seen found category rest hseen ih => exact ih hfound h
  | case3 => cases h
  | case4 seen found category rest hseen e log he ih => exact ih (nodup_foldl_addNew e.members hfound) h

/-- What the listing adds was met in a category that a pending one leads to. -/
theorem belongs_of_collectMembers (h : (Lookup.collectMembers r seen found pending).result = .ok members)
    (hk : kind ∈ members) : kind ∈ found ∨ ∃ c ∈ pending, r.Belongs c kind := by
  fun_induction Lookup.collectMembers r seen found pending with
  | case1 => cases h; exact Or.inl hk
  | case2 seen found category rest hseen ih =>
    refine (ih h).imp_right ?_
    rintro ⟨c, hc, hb⟩
    exact ⟨c, List.mem_cons_of_mem _ hc, hb⟩
  | case3 => cases h
  | case4 seen found category rest hseen e log he ih =>
    have hentry := Lookup.get?_of_entry he
    rcases ih h with hfound | ⟨c, hc, hb⟩
    · rcases mem_foldl_addNew.1 hfound with hfound | hmember
      · exact Or.inl hfound
      · exact Or.inr ⟨category, List.mem_cons_self, category, .refl, e, hentry, hmember⟩
    · rcases List.mem_append.1 hc with hc | hc
      · refine Or.inr ⟨category, List.mem_cons_self, ?_⟩
        exact belongs_iff.2 (Or.inr ⟨c, ⟨e, hentry, hc⟩, hb⟩)
      · exact Or.inr ⟨c, List.mem_cons_of_mem _ hc, hb⟩

/-- A kind that the listing leaves out belongs to none of the categories. -/
theorem not_belongs_of_collectMembers (h : (Lookup.collectMembers r seen found pending).result = .ok members)
    (hk : kind ∉ members) (hs : r.Searched kind seen pending) :
    ∀ c, c ∈ seen ∨ c ∈ pending → ¬ r.Belongs c kind := by
  fun_induction Lookup.collectMembers r seen found pending with
  | case1 => exact fun c hc => hs.not_belongs (hc.resolve_right List.not_mem_nil)
  | case2 seen found category rest hseen ih =>
    exact fun c hc => ih h (hs.skip hseen) c (mem_of_skip hseen hc)
  | case3 => cases h
  | case4 seen found category rest hseen e log he ih =>
    -- the members of the category are listed, so that the kind is not one of them
    have hnot : kind ∉ e.members := fun hm =>
      hk ((prefix_collectMembers h).subset (mem_foldl_addNew.2 (Or.inr hm)))
    have hnext : r.Searched kind (category :: seen) (e.includes ++ rest) :=
      (hs.expand (Lookup.get?_of_entry he) hnot).of_subset (by simp)
    exact fun c hc => ih h hnext c (mem_of_expand e.includes hc)

/-- Listing the members of defined categories does not fail. -/
theorem collectMembers_ok (hr : WellFormed r) (h : ∀ c ∈ pending, r.hasCategory c) :
    ∃ members, (Lookup.collectMembers r seen found pending).result = .ok members := by
  fun_induction Lookup.collectMembers r seen found pending with
  | case1 seen found => exact ⟨found, rfl⟩
  | case2 seen found category rest hseen ih => exact ih fun c hc => h c (List.mem_cons_of_mem _ hc)
  | case3 seen found category rest hseen error log he =>
    exact absurd he (entry_ne_error (h category List.mem_cons_self))
  | case4 seen found category rest hseen e log he ih =>
    apply ih
    intro c hc
    exact hr.hasCategory_next (Lookup.get?_of_entry he) h (List.mem_append.1 hc)

/-- In a defined category the listing succeeds, without repetition, and lists what belongs there. -/
theorem membersOf_ok (hr : WellFormed r) {c : Category} (hc : r.hasCategory c) :
    ∃ members, r.membersOf c = .ok members ∧ members.Nodup ∧
      ∀ kind, kind ∈ members ↔ r.Belongs c kind := by
  obtain ⟨members, hmembers⟩ : ∃ members, r.membersOf c = .ok members := by
    apply collectMembers_ok hr
    simpa using hc
  refine ⟨members, hmembers, nodup_collectMembers List.nodup_nil hmembers, fun kind => ?_⟩
  constructor
  · intro hk
    rcases belongs_of_collectMembers hmembers hk with hnil | ⟨c', hc', hb⟩
    · cases hnil
    · exact List.mem_singleton.1 hc' ▸ hb
  · intro hb
    refine Classical.byContradiction fun hk => ?_
    exact not_belongs_of_collectMembers hmembers hk nofun c (Or.inr List.mem_cons_self) hb

/-! ### Undefined categories -/

theorem entry_of_undefined {c : Category} (hc : r.hasCategory c = false) :
    Lookup.entry r c = .fault (.unknownCategory c "lookup") := by
  have hnone : r.categories.get? c = none := by simpa [hasCategory, OrderedMap.contains] using hc
  rw [Lookup.entry, hnone]

theorem membersOf_undefined {c : Category} (hc : r.hasCategory c = false) :
    r.membersOf c = .error (.unknownCategory c "lookup") := by
  rw [membersOf, Lookup.membersOf, Lookup.collectMembers, dif_neg List.not_mem_nil]
  split
  · next error log he => rw [entry_of_undefined hc] at he; cases he; rfl
  · next e log he => rw [entry_of_undefined hc] at he; cases he

theorem contains_undefined {c : Category} (hc : r.hasCategory c = false) (kind : String) :
    r.contains c kind = .error (.unknownCategory c "lookup") := by
  rw [contains, Lookup.contains, Lookup.findMember, dif_neg List.not_mem_nil]
  split
  · next error log he => rw [entry_of_undefined hc] at he; cases he; rfl
  · next e log he => rw [entry_of_undefined hc] at he; cases he

/-! ### The answer of the search -/

/-- Nothing belongs to an undefined category. -/
theorem Belongs.hasCategory {c : Category} (h : r.Belongs c kind) : r.hasCategory c := by
  rcases belongs_iff.1 h with ⟨e, he, _⟩ | ⟨_, ⟨e, he, _⟩, _⟩
  · exact hasCategory_iff.2 ⟨e, he⟩
  · exact hasCategory_iff.2 ⟨e, he⟩

/-- The search finds exactly the kinds that belong to the category, defined or not. -/
theorem contains_eq_true_iff (hr : WellFormed r) {c : Category} :
    r.contains c kind = .ok true ↔ r.Belongs c kind := by
  cases hc : r.hasCategory c with
  | false =>
    rw [contains_undefined hc]
    exact iff_of_false nofun fun hb => Bool.false_ne_true (hc.symm.trans hb.hasCategory)
  | true =>
    obtain ⟨found, hfound, hiff⟩ := contains_ok hr hc kind
    rw [hfound, Except.ok.injEq, hiff]

/-- Two registries that agree on a category and on what belongs there give the same answer. -/
theorem contains_eq {r' : Registry} (hr : WellFormed r) (hr' : WellFormed r') {c : Category}
    (hcategory : r.hasCategory c = r'.hasCategory c) (hbelongs : r.Belongs c kind ↔ r'.Belongs c kind) :
    r.contains c kind = r'.contains c kind := by
  cases hc : r.hasCategory c with
  | false => rw [contains_undefined hc, contains_undefined (hcategory ▸ hc)]
  | true =>
    obtain ⟨found, hfound, hiff⟩ := contains_ok hr hc kind
    obtain ⟨found', hfound', hiff'⟩ := contains_ok hr' (hcategory ▸ hc) kind
    rw [hfound, hfound', Bool.eq_iff_iff.2 (hiff.trans (hbelongs.trans hiff'.symm))]

end Registry

/-- In every registry that additions lead to, whatever its includes: looking into an undefined category
fails in the same way for both searches. In a defined one both succeed, the listing has no repetition,
and a kind is found exactly when it is listed, which is when it was registered into a category that
includes lead to. -/
theorem membership_closure (r : Registry) (hr : r.Reachable) (c : Category) :
    (r.hasCategory c = false → r.membersOf c = .error (.unknownCategory c "lookup") ∧
      ∀ kind, r.contains c kind = .error (.unknownCategory c "lookup")) ∧
    (r.hasCategory c = true → ∃ members, r.membersOf c = .ok members ∧ members.Nodup ∧
      ∀ kind, ∃ found, r.contains c kind = .ok found ∧ (found = true ↔ kind ∈ members) ∧
        (kind ∈ members ↔ ∃ d, Relation.ReflTransGen r.Includes c d ∧ r.HasMember d kind)) := by
  constructor
  · exact fun hc => ⟨Registry.membersOf_undefined hc, Registry.contains_undefined hc⟩
  · intro hc
    obtain ⟨members, hmembers, hnodup, hlisted⟩ := Registry.membersOf_ok hr.wellFormed hc
    refine ⟨members, hmembers, hnodup, fun kind => ?_⟩
    obtain ⟨found, hfound, hiff⟩ := Registry.contains_ok hr.wellFormed hc kind
    exact ⟨found, hfound, hiff.trans (hlisted kind).symm, hlisted kind⟩

/-- Lists and tables include blocks, and blocks include lists, tables and themselves. -/
theorem membership_closure_cycle :
    let r := Registry.empty.after [.defineCategory .block [], .defineCategory .list [.block],
      .defineCategory .table [.block], .defineCategory .block [.list, .table, .block],
      .register .table "tableRow"]
    r.Reachable ∧ r.Includes .block .block ∧ r.Includes .block .table ∧ r.Includes .table .block ∧
      r.hasCategory .row = false ∧ r.hasCategory .list = true ∧
      (r.membersOf .row = .error (.unknownCategory .row "lookup") ∧
        ∀ kind, r.contains .row kind = .error (.unknownCategory .row "lookup")) ∧
      ∃ members, r.membersOf .list = .ok members ∧ members.Nodup ∧
        ∀ kind, ∃ found, r.contains .list kind = .ok found ∧ (found = true ↔ kind ∈ members) ∧
          (kind ∈ members ↔ ∃ d, Relation.ReflTransGen r.Includes .list d ∧ r.HasMember d kind) := by
  intro r
  have hr : r.Reachable := ⟨_, Or.inl rfl⟩
  have hblock : r.categories.get? .block = some ⟨[], [.list, .table, .block]⟩ := rfl
  have htable : r.categories.get? .table = some ⟨["tableRow"], [.block]⟩ := rfl
  have hrow : r.hasCategory .row = false := by decide
  have hlist : r.hasCategory .list = true := by decide
  exact ⟨hr, ⟨_, hblock, by decide⟩, ⟨_, hblock, by decide⟩, ⟨_, htable, by decide⟩, hrow, hlist,
    (membership_closure r hr .row).1 hrow, (membership_closure r hr .list).2 hlist⟩

end WikiDoc
