import WikiDoc.Proofs.Registry.Growth
import WikiDoc.Registry.Membership

/-!
Membership as a closure.

A kind belongs to a category when includes lead from it, through any number of categories, to one that
the kind was registered into (`Belongs`). The search of `contains` decides exactly this, cycles among
the includes or not (`contains_ok`), and a kind that belongs to a category still does when the
registry has grown (`Grows.belongs`).
-/

namespace WikiDoc.Registry

/-- A category includes another one directly. -/
def Includes (r : Registry) (c d : Category) : Prop :=
  ∃ entry, r.categories.get? c = some entry ∧ d ∈ entry.includes

/-- A kind is a member of a category or of one that includes lead to. -/
def Belongs (r : Registry) (c : Category) (kind : String) : Prop :=
  ∃ d, Relation.ReflTransGen r.Includes c d ∧ r.HasMember d kind

/-- Membership by one category: its own members, and what belongs to the categories it includes. -/
theorem belongs_iff {r : Registry} {c : Category} {kind : String} :
    r.Belongs c kind ↔ r.HasMember c kind ∨ ∃ d, r.Includes c d ∧ r.Belongs d kind := by
  constructor
  · rintro ⟨d, hd, hm⟩
    rcases hd.cases_head with rfl | ⟨c', hc', hd⟩
    · exact Or.inl hm
    · exact Or.inr ⟨c', hc', d, hd, hm⟩
  · rintro (hm | ⟨c', hc', d, hd, hm⟩)
    · exact ⟨c, .refl, hm⟩
    · exact ⟨d, hd.head hc', hm⟩

theorem Grows.includes {r r' : Registry} (h : Grows r r') {c d : Category} (hc : r.Includes c d) :
    r'.Includes c d := by
  obtain ⟨e, he, hd⟩ := hc
  obtain ⟨e', he', _, hi⟩ := h.entry c e he
  exact ⟨e', he', hi.subset hd⟩

/-- Membership is never lost. -/
theorem Grows.belongs {r r' : Registry} (h : Grows r r') {c : Category} {kind : String}
    (hc : r.Belongs c kind) : r'.Belongs c kind := by
  obtain ⟨d, hd, hm⟩ := hc
  exact ⟨d, Relation.ReflTransGen.mono (fun _ _ => h.includes) c d hd, h.hasMember hm⟩

/-- Whether a kind belongs to a category depends on the includes and on what it was registered into. -/
theorem belongs_congr {r r' : Registry} {kind : String}
    (hincludes : ∀ c d, r.Includes c d ↔ r'.Includes c d)
    (hmembers : ∀ c, r.HasMember c kind ↔ r'.HasMember c kind) (c : Category) :
    r.Belongs c kind ↔ r'.Belongs c kind := by
  have hsame : r.Includes = r'.Includes := by
    funext c d
    exact propext (hincludes c d)
  unfold Belongs
  rw [hsame]
  exact exists_congr fun d => and_congr_right fun _ => hmembers d

/-! ### The search decides membership -/

/-- A search that finds the kind has found it in a category that a pending one leads to. -/
theorem belongs_of_findMember {r : Registry} {kind : String} {seen pending : List Category}
    (h : (Lookup.findMember r kind seen pending).result = .ok true) :
    ∃ c ∈ pending, r.Belongs c kind := by
  fun_induction Lookup.findMember r kind seen pending with
  | case1 => cases h
  | case2 seen category rest hseen ih =>
    obtain ⟨c, hc, hb⟩ := ih h
    exact ⟨c, List.mem_cons_of_mem _ hc, hb⟩
  | case3 => cases h
  | case4 seen category rest hseen e log he hk =>
    exact ⟨category, List.mem_cons_self, category, .refl, e, Lookup.get?_of_entry he, hk⟩
  | case5 seen category rest hseen e log he hk ih =>
    obtain ⟨c, hc, hb⟩ := ih h
    rcases List.mem_append.mp hc with hc | hc
    · have hstep : r.Includes category c :=
        ⟨e, Lookup.get?_of_entry he, List.mem_reverse.mp hc⟩
      exact ⟨category, List.mem_cons_self, belongs_iff.2 (Or.inr ⟨c, hstep, hb⟩)⟩
    · exact ⟨c, List.mem_cons_of_mem _ hc, hb⟩

/-- The state of a search that has not found the kind: it is in no category seen so far, and what
these include is seen or pending. -/
def Searched (r : Registry) (kind : String) (seen pending : List Category) : Prop :=
  ∀ c ∈ seen, ¬ r.HasMember c kind ∧ ∀ d, r.Includes c d → d ∈ seen ∨ d ∈ pending

/-- It does not matter in which order the categories are pending, nor whether more of them are. -/
theorem Searched.of_subset {r : Registry} {kind : String} {seen pending pending' : List Category}
    (h : r.Searched kind seen pending) (hsub : pending ⊆ pending') : r.Searched kind seen pending' :=
  fun c hc => ⟨(h c hc).1, fun d hd => ((h c hc).2 d hd).imp_right (@hsub d)⟩

/-- Looking at a category that was seen before changes nothing. -/
theorem Searched.skip {r : Registry} {kind : String} {seen rest : List Category} {c : Category}
    (h : r.Searched kind seen (c :: rest)) (hc : c ∈ seen) : r.Searched kind seen rest := by
  intro s hs
  refine ⟨(h s hs).1, fun d hd => ?_⟩
  rcases (h s hs).2 d hd with hd | hd
  · exact Or.inl hd
  · rcases List.mem_cons.mp hd with rfl | hd
    · exact Or.inl hc
    · exact Or.inr hd

/-- Looking at a new category without the kind puts off what it includes. -/
theorem Searched.expand {r : Registry} {kind : String} {seen rest : List Category} {c : Category}
    {e : CategoryEntry} (h : r.Searched kind seen (c :: rest))
    (he : r.categories.get? c = some e) (hk : kind ∉ e.members) :
    r.Searched kind (c :: seen) (e.includes.reverse ++ rest) := by
  intro s hs
  rcases List.mem_cons.mp hs with rfl | hs
  · constructor
    · rintro ⟨e', he', hk'⟩
      rw [he] at he'
      cases he'
      exact hk hk'
    · rintro d ⟨e', he', hd⟩
      rw [he] at he'
      cases he'
      exact Or.inr (List.mem_append_left _ (List.mem_reverse.mpr hd))
  · refine ⟨(h s hs).1, fun d hd => ?_⟩
    rcases (h s hs).2 d hd with hd | hd
    · exact Or.inl (List.mem_cons_of_mem _ hd)
    · rcases List.mem_cons.mp hd with rfl | hd
      · exact Or.inl List.mem_cons_self
      · exact Or.inr (List.mem_append_right _ hd)

/-- Once nothing is pending, what was seen is closed under includes and free of the kind. -/
theorem Searched.not_belongs {r : Registry} {kind : String} {seen : List Category}
    (h : r.Searched kind seen []) {c : Category} (hc : c ∈ seen) : ¬ r.Belongs c kind := by
  rintro ⟨d, hd, hm⟩
  have hseen : d ∈ seen := by
    clear hm
    induction hd with
    | refl => exact hc
    | tail _ step ih => exact ((h _ ih).2 _ step).resolve_right List.not_mem_nil
  exact (h d hseen).1 hm

/-- Passing over a category that was seen loses none of those seen or pending. -/
theorem mem_of_skip {seen rest : List Category} {category c : Category} (hseen : category ∈ seen)
    (hc : c ∈ seen ∨ c ∈ category :: rest) : c ∈ seen ∨ c ∈ rest := by
  rcases hc with hc | hc
  · exact Or.inl hc
  · rcases List.mem_cons.mp hc with rfl | hc
    · exact Or.inl hseen
    · exact Or.inr hc

/-- Looking at a category, and at what comes next after it, loses none of those seen or pending. -/
theorem mem_of_expand {seen rest : List Category} {category c : Category} (next : List Category)
    (hc : c ∈ seen ∨ c ∈ category :: rest) : c ∈ category :: seen ∨ c ∈ next ++ rest := by
  rcases hc with hc | hc
  · exact Or.inl (List.mem_cons_of_mem _ hc)
  · rcases List.mem_cons.mp hc with rfl | hc
    · exact Or.inl List.mem_cons_self
    · exact Or.inr (List.mem_append_right _ hc)

/-- A search that ends without the kind has shown that it belongs to none of the categories. -/
theorem not_belongs_of_findMember {r : Registry} {kind : String} {seen pending : List Category}
    (h : (Lookup.findMember r kind seen pending).result = .ok false)
    (hs : r.Searched kind seen pending) : ∀ c, c ∈ seen ∨ c ∈ pending → ¬ r.Belongs c kind := by
  fun_induction Lookup.findMember r kind seen pending with
  | case1 seen => exact fun c hc => hs.not_belongs (hc.resolve_right List.not_mem_nil)
  | case2 seen category rest hseen ih => exact fun c hc => ih h (hs.skip hseen) c (mem_of_skip hseen hc)
  | case3 => cases h
  | case4 => cases h
  | case5 seen category rest hseen e log he hk ih =>
    intro c hc
    exact ih h (hs.expand (Lookup.get?_of_entry he) hk) c (mem_of_expand e.includes.reverse hc)

/-- Looking up a defined category does not fail. -/
theorem entry_ne_error {r : Registry} {c : Category} (hc : r.hasCategory c) {error : RegistryError}
    {log : List LogRecord} : Lookup.entry r c ≠ ⟨.error error, log⟩ := by
  obtain ⟨e, he⟩ := hasCategory_iff.1 hc
  rw [Lookup.entry, he]
  exact nofun

/-- All that is looked at after a defined category is defined: what it includes, and the rest. -/
theorem WellFormed.hasCategory_next {r : Registry} (hr : WellFormed r) {category c : Category}
    {rest : List Category} {e : CategoryEntry} (he : r.categories.get? category = some e)
    (h : ∀ c ∈ category :: rest, r.hasCategory c) (hc : c ∈ e.includes ∨ c ∈ rest) :
    r.hasCategory c := by
  rcases hc with hc | hc
  · exact hr.includes category e he c hc
  · exact h c (List.mem_cons_of_mem _ hc)

/-- A search among defined categories does not fail. -/
theorem findMember_ok {r : Registry} (hr : WellFormed r) {kind : String}
    {seen pending : List Category} (h : ∀ c ∈ pending, r.hasCategory c) :
    ∃ found, (Lookup.findMember r kind seen pending).result = .ok found := by
  fun_induction Lookup.findMember r kind seen pending with
  | case1 => exact ⟨false, rfl⟩
  | case2 seen category rest hseen ih => exact ih fun c hc => h c (List.mem_cons_of_mem _ hc)
  | case3 seen category rest hseen error log he =>
    exact absurd he (entry_ne_error (h category List.mem_cons_self))
  | case4 => exact ⟨true, rfl⟩
  | case5 seen category rest hseen e log he hk ih =>
    apply ih
    intro c hc
    rw [List.mem_append, List.mem_reverse] at hc
    exact hr.hasCategory_next (Lookup.get?_of_entry he) h hc

/-- In a defined category the search succeeds, and it answers whether the kind belongs there. -/
theorem contains_ok {r : Registry} (hr : WellFormed r) {c : Category} (hc : r.hasCategory c)
    (kind : String) : ∃ found, r.contains c kind = .ok found ∧ (found = true ↔ r.Belongs c kind) := by
  obtain ⟨found, hfound⟩ : ∃ found, r.contains c kind = .ok found := by
    apply findMember_ok hr
    simpa using hc
  refine ⟨found, hfound, ?_⟩
  cases found with
  | true =>
    obtain ⟨c', hc', hb⟩ := belongs_of_findMember hfound
    rw [List.mem_singleton] at hc'
    exact iff_of_true rfl (hc' ▸ hb)
  | false =>
    have hnot := not_belongs_of_findMember hfound nofun c (Or.inr List.mem_cons_self)
    exact iff_of_false Bool.false_ne_true hnot

end WikiDoc.Registry
