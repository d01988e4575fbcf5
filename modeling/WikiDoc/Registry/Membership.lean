import WikiDoc.Registry.Lookup

/-!
Membership in categories, includes resolved.

A kind belongs to a category when it was registered into the category or into one that the category
includes, directly or through others. `membersOf` goes through the includes depth first and lists the
kinds it meets; `contains` looks for one kind and stops when it has found it. Neither looks at a
category twice, so both end whatever the includes, cycles among them. Both are lookups: they fail at
the first category that is not defined, and log it.
-/

namespace WikiDoc

namespace Registry

/-- The number of includes, over all entries of categories that have not been seen. -/
def unseenIncludes (seen : List Category) : List (Category × CategoryEntry) → Nat
  | [] => 0
  | entry :: rest =>
    (if entry.1 ∈ seen then 0 else entry.2.includes.length) + unseenIncludes seen rest

/-- The number of categories that a search may still look at. -/
def workLeft (r : Registry) (seen pending : List Category) : Nat :=
  unseenIncludes seen r.categories.entries + pending.length

/-- Seeing one more category never adds includes that are still to be looked at. -/
theorem unseenIncludes_cons_le (category : Category) (seen : List Category)
    (entries : List (Category × CategoryEntry)) :
    unseenIncludes (category :: seen) entries ≤ unseenIncludes seen entries := by
  induction entries with
  | nil => exact Nat.le_refl _
  | cons entry rest ih =>
    simp only [unseenIncludes]
    by_cases hs : entry.1 ∈ seen
    · rw [if_pos hs, if_pos (List.mem_cons_of_mem _ hs)]
      omega
    · rw [if_neg hs]
      split <;> omega

/-- Seeing a category for the first time takes its includes off those to be looked at. -/
theorem unseenIncludes_lookup {category : Category} {seen : List Category} {e : CategoryEntry}
    (hs : category ∉ seen) {entries : List (Category × CategoryEntry)}
    (he : entries.lookup category = some e) :
    unseenIncludes (category :: seen) entries + e.includes.length ≤ unseenIncludes seen entries := by
  induction entries with
  | nil => cases he
  | cons entry rest ih =>
    rw [OrderedMap.lookup_entry] at he
    by_cases hk : category = entry.1
    · rw [if_pos hk] at he
      cases he
      have := unseenIncludes_cons_le category seen rest
      have hs' : entry.1 ∉ seen := hk ▸ hs
      simp only [unseenIncludes, hk, List.mem_cons_self, if_true, hs', if_false] at this ⊢
      omega
    · rw [if_neg hk] at he
      have := ih he
      have hm : entry.1 ∈ category :: seen ↔ entry.1 ∈ seen := by
        rw [List.mem_cons]
        exact or_iff_right (Ne.symm hk)
      simp only [unseenIncludes, hm]
      omega

/-- A search that goes on with the includes of a new category has less work left. -/
theorem workLeft_expand {r : Registry} {category : Category} {seen rest includes : List Category}
    {e : CategoryEntry} (he : r.categories.get? category = some e) (hs : category ∉ seen)
    (hi : includes.length = e.includes.length) :
    r.workLeft (category :: seen) (includes ++ rest) < r.workLeft seen (category :: rest) := by
  have := unseenIncludes_lookup hs he
  simp only [workLeft, List.length_append, List.length_cons]
  omega

end Registry

namespace Lookup

/-- A category whose entry is found is defined. -/
theorem get?_of_entry {r : Registry} {category : Category} {e : CategoryEntry} {log : List LogRecord}
    (h : entry r category = ⟨.ok e, log⟩) : r.categories.get? category = some e := by
  unfold entry at h
  split at h
  · next he =>
    cases h
    exact he
  · cases h

/-- Lists the members of the pending categories, from the first on, behind those found so far. -/
def collectMembers (r : Registry) (seen : List Category) (found : List String) :
    List Category → Lookup (List String)
  | [] => answer found
  | category :: rest =>
    if _ : category ∈ seen then collectMembers r seen found rest
    else
      match _ : entry r category with
      | ⟨.error error, log⟩ => ⟨.error error, log⟩
      | ⟨.ok e, log⟩ =>
        (collectMembers r (category :: seen) (e.members.foldl addNew found)
          (e.includes ++ rest)).after log
termination_by pending => r.workLeft seen pending
decreasing_by
  · simp [Registry.workLeft]
  · exact Registry.workLeft_expand (get?_of_entry (by assumption)) (by assumption) rfl

/-- The kinds that belong to a category, in the order in which the search meets them. -/
def membersOf (r : Registry) (category : Category) : Lookup (List String) :=
  collectMembers r [] [] [category]

/-- Looks for a kind in the pending categories, from the first on; what the latest category includes
is looked at next, its last include first. -/
def findMember (r : Registry) (kind : String) (seen : List Category) : List Category → Lookup Bool
  | [] => answer false
  | category :: rest =>
    if _ : category ∈ seen then findMember r kind seen rest
    else
      match _ : entry r category with
      | ⟨.error error, log⟩ => ⟨.error error, log⟩
      | ⟨.ok e, log⟩ =>
        if kind ∈ e.members then (answer true).after log
        else (findMember r kind (category :: seen) (e.includes.reverse ++ rest)).after log
termination_by pending => r.workLeft seen pending
decreasing_by
  · simp [Registry.workLeft]
  · exact Registry.workLeft_expand (get?_of_entry (by assumption)) (by assumption) (by simp)

/-- Whether a kind belongs to a category. -/
def contains (r : Registry) (category : Category) (kind : String) : Lookup Bool :=
  findMember r kind [] [category]

end Lookup

namespace Registry

/-- The kinds that belong to a category. -/
def membersOf (r : Registry) (category : Category) : Except RegistryError (List String) :=
  (Lookup.membersOf r category).result

/-- Whether a kind belongs to a category. -/
def contains (r : Registry) (category : Category) (kind : String) : Except RegistryError Bool :=
  (Lookup.contains r category kind).result

end Registry

end WikiDoc
