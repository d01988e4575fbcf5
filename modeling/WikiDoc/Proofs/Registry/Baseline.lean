import WikiDoc.Proofs.Registry.Closure

/-!
The baseline registry, read off its tables.

Loading the baseline leaves exactly the tables of categories and kinds that it is built from: the
definition of a kind is the one in the table (`kind?_baseline`), and a kind belongs to a category exactly
when its definition joins the category or one that it includes (`belongs_baseline`,
`belongs_of_mem_members`).
-/

namespace WikiDoc

namespace Baseline

/-- A category and the categories that it includes. -/
def scope (category : Category) : List Category := category :: (categories.lookup category).getD []

/-- The built-in kinds that join a category or one that it includes. -/
def members (category : Category) : List String :=
  (kinds.filter fun d => d.memberOf.any fun c => decide (c ∈ scope category)).map KindDef.kind

end Baseline

namespace Registry

set_option maxRecDepth 100000 in
/-- The definitions of the baseline are those of the table, in its order. -/
theorem kinds_baseline : baseline.kinds.entries = Baseline.kinds.map fun d => (d.kind, d) := by rfl

set_option maxRecDepth 100000 in
/-- The categories of the baseline, with the kinds whose definitions join them. -/
theorem categories_baseline : baseline.categories.entries = Baseline.categories.map fun entry =>
    (entry.1, ⟨(Baseline.kinds.filter fun d => decide (entry.1 ∈ d.memberOf)).map KindDef.kind,
      entry.2⟩) := by rfl

theorem kind?_baseline {kind : String} {d : KindDef} :
    baseline.kind? kind = some d ↔ d ∈ Baseline.kinds ∧ d.kind = kind := by
  rw [Registry.kind?, OrderedMap.get?_eq_some_iff, kinds_baseline, List.mem_map]
  constructor
  · rintro ⟨d', hd', h⟩
    cases h
    exact ⟨hd', rfl⟩
  · rintro ⟨hd, rfl⟩
    exact ⟨d, hd, rfl⟩

theorem get?_categories_baseline {category : Category} {entry : CategoryEntry} :
    baseline.categories.get? category = some entry ↔ ∃ row ∈ Baseline.categories,
      row.1 = category ∧ entry.includes = row.2 ∧ entry.members =
        (Baseline.kinds.filter fun d => decide (category ∈ d.memberOf)).map KindDef.kind := by
  rw [OrderedMap.get?_eq_some_iff, categories_baseline, List.mem_map]
  constructor
  · rintro ⟨row, hrow, h⟩
    cases h
    exact ⟨row, hrow, rfl, rfl, rfl⟩
  · rintro ⟨row, hrow, rfl, hi, hm⟩
    refine ⟨row, hrow, ?_⟩
    rw [← hi, ← hm]

theorem includes_baseline {c d : Category} :
    baseline.Includes c d ↔ ∃ row ∈ Baseline.categories, row.1 = c ∧ d ∈ row.2 := by
  constructor
  · rintro ⟨entry, he, hd⟩
    obtain ⟨row, hrow, hc, hi, _⟩ := get?_categories_baseline.1 he
    exact ⟨row, hrow, hc, hi ▸ hd⟩
  · rintro ⟨row, hrow, hc, hd⟩
    exact ⟨⟨_, row.2⟩, get?_categories_baseline.2 ⟨row, hrow, hc, rfl, rfl⟩, hd⟩

theorem hasMember_baseline {c : Category} {kind : String} : baseline.HasMember c kind →
    ∃ d ∈ Baseline.kinds, c ∈ d.memberOf ∧ d.kind = kind := by
  rintro ⟨entry, he, hk⟩
  obtain ⟨row, _, _, _, hm⟩ := get?_categories_baseline.1 he
  rw [hm, List.mem_map] at hk
  obtain ⟨d, hd, rfl⟩ := hk
  rw [List.mem_filter, decide_eq_true_iff] at hd
  exact ⟨d, hd.1, hd.2, rfl⟩

/-- Includes of the baseline lead from a category no further than to those it names itself. -/
theorem mem_scope_of_includes {c d : Category}
    (h : Relation.ReflTransGen baseline.Includes c d) : d ∈ Baseline.scope c := by
  have hflat : ∀ row ∈ Baseline.categories, ∀ i ∈ row.2,
      i ∈ Baseline.scope row.1 ∧ ∀ row' ∈ Baseline.categories, row'.1 = i → row'.2 = [] := by
    decide
  rcases h.cases_head with rfl | ⟨i, hi, hd⟩
  · exact List.mem_cons_self
  · obtain ⟨row, hrow, rfl, hrowi⟩ := includes_baseline.1 hi
    obtain ⟨hscope, hend⟩ := hflat row hrow i hrowi
    rcases hd.cases_head with rfl | ⟨j, hj, _⟩
    · exact hscope
    · obtain ⟨row', hrow', hrow'i, hrowj⟩ := includes_baseline.1 hj
      rw [hend row' hrow' hrow'i] at hrowj
      cases hrowj

/-- What belongs to a category of the baseline is in the table. -/
theorem belongs_baseline {c : Category} {kind : String} (h : baseline.Belongs c kind) :
    kind ∈ Baseline.members c := by
  obtain ⟨d, hd, hm⟩ := h
  obtain ⟨definition, hdef, hjoin, rfl⟩ := hasMember_baseline hm
  refine List.mem_map_of_mem (List.mem_filter.2 ⟨hdef, ?_⟩)
  exact List.any_eq_true.2 ⟨d, hjoin, decide_eq_true (mem_scope_of_includes hd)⟩

/-- The kinds of the table belong to the category in the baseline. -/
theorem belongs_of_mem_members {c : Category} {kind : String} (h : kind ∈ Baseline.members c) :
    baseline.Belongs c kind := by
  obtain ⟨d, hd, rfl⟩ := List.mem_map.1 h
  rw [List.mem_filter, List.any_eq_true] at hd
  obtain ⟨hdef, c', hjoin, hscope⟩ := hd
  refine ⟨c', ?_, ?_⟩
  · rcases List.mem_cons.1 (of_decide_eq_true hscope) with rfl | hinclude
    · exact .refl
    · cases hrow : Baseline.categories.lookup c with
      | none => rw [hrow] at hinclude; cases hinclude
      | some includes =>
        rw [hrow] at hinclude
        obtain ⟨front, back, htable, _⟩ := List.lookup_eq_some_iff.1 hrow
        have hmem : (c, includes) ∈ Baseline.categories := htable ▸ by simp
        exact .single (includes_baseline.2 ⟨_, hmem, rfl, hinclude⟩)
  · have hdefined : baseline.hasCategory c' := reachable_baseline.wellFormed.kinds d.kind d
      (kind?_baseline.2 ⟨hdef, rfl⟩) c' (List.mem_append_right _ hjoin)
    obtain ⟨entry, hentry⟩ := hasCategory_iff.1 hdefined
    obtain ⟨_, _, _, _, hmembers⟩ := get?_categories_baseline.1 hentry
    refine ⟨entry, hentry, hmembers ▸ List.mem_map_of_mem ?_⟩
    exact List.mem_filter.2 ⟨hdef, decide_eq_true hjoin⟩

/-- Every kind with children names the category that they must belong to. -/
def NamesContent (r : Registry) : Prop :=
  ∀ kind d, r.kind? kind = some d → d.shape = .parent → d.content.isSome

theorem namesContent_baseline : baseline.NamesContent := by
  have htable : ∀ d ∈ Baseline.kinds, d.shape = .parent → d.content.isSome := by decide
  intro kind d hd
  exact htable d (kind?_baseline.1 hd).1

end Registry

end WikiDoc
