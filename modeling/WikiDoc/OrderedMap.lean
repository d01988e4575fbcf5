/-!
Finite maps that remember the order in which their keys were first inserted.

A map is a list of entries with distinct keys. `insert` replaces the value of a key that is already
there and keeps its place, and appends a new key at the end, so `keys` is the order of first
insertion over any history. Two maps are the `same` when they answer every lookup alike, whatever
the order of their entries.
-/

namespace WikiDoc

universe u v w

/-- A finite map whose entries stand in the order in which their keys were first inserted. -/
structure OrderedMap (κ : Type u) (α : Type v) where
  /-- The entries, oldest key first. -/
  entries : List (κ × α)
  /-- No key occurs twice. -/
  nodup : (entries.map Prod.fst).Nodup

namespace OrderedMap

variable {κ : Type u} {α : Type v} {β : Type w}

/-- Puts `value` at `key`: in place of an older value, else behind all entries. -/
def place [DecidableEq κ] (key : κ) (value : α) : List (κ × α) → List (κ × α)
  | [] => [(key, value)]
  | entry :: rest =>
    if entry.1 = key then (key, value) :: rest else entry :: place key value rest

/-- Placing a value adds its key at the end unless the key is there already. -/
theorem map_fst_place [DecidableEq κ] (key : κ) (value : α) (entries : List (κ × α)) :
    (place key value entries).map Prod.fst =
      if key ∈ entries.map Prod.fst then entries.map Prod.fst
      else entries.map Prod.fst ++ [key] := by
  induction entries with
  | nil => simp [place]
  | cons entry rest ih =>
    by_cases h : entry.1 = key
    · simp [place, h]
    · by_cases hr : key ∈ rest.map Prod.fst
      · rw [if_pos hr] at ih
        simp only [place, if_neg h, List.map_cons, ih]
        rw [if_pos (List.mem_cons_of_mem _ hr)]
      · rw [if_neg hr] at ih
        have hc : key ∉ entry.1 :: rest.map Prod.fst := by
          simp only [List.mem_cons, not_or]
          exact ⟨Ne.symm h, hr⟩
        simp only [place, if_neg h, List.map_cons, ih]
        rw [if_neg hc, List.cons_append]

/-- Placing a value keeps the keys distinct. -/
theorem nodup_place [DecidableEq κ] (key : κ) (value : α) {entries : List (κ × α)}
    (h : (entries.map Prod.fst).Nodup) : ((place key value entries).map Prod.fst).Nodup := by
  rw [map_fst_place]
  split
  · exact h
  · next hk =>
    rw [List.nodup_append]
    refine ⟨h, by simp, ?_⟩
    intro a ha b hb
    rw [List.mem_singleton] at hb
    exact fun hab => hk (hb ▸ hab ▸ ha)

/-- The map without entries. -/
def empty : OrderedMap κ α := ⟨[], List.nodup_nil⟩

instance : Inhabited (OrderedMap κ α) := ⟨empty⟩

instance [DecidableEq κ] [DecidableEq α] : DecidableEq (OrderedMap κ α) := fun a b =>
  decidable_of_iff (a.entries = b.entries) (by cases a; cases b; simp)

/-- The value at a key. -/
def get? [DecidableEq κ] (m : OrderedMap κ α) (key : κ) : Option α := m.entries.lookup key

/-- The keys, in the order of their first insertion. -/
def keys (m : OrderedMap κ α) : List κ := m.entries.map Prod.fst

/-- The values, in the order of their keys. -/
def values (m : OrderedMap κ α) : List α := m.entries.map Prod.snd

/-- Whether a key has a value. -/
def contains [DecidableEq κ] (m : OrderedMap κ α) (key : κ) : Bool := (m.get? key).isSome

/-- The number of entries. -/
def size (m : OrderedMap κ α) : Nat := m.entries.length

/-- Whether there is no entry. -/
def isEmpty (m : OrderedMap κ α) : Bool := m.entries.isEmpty

/-- Sets the value at a key; a key that is there already keeps its place. -/
def insert [DecidableEq κ] (m : OrderedMap κ α) (key : κ) (value : α) : OrderedMap κ α :=
  ⟨place key value m.entries, nodup_place key value m.nodup⟩

/-- Sets the value at a key when there is one to set. -/
def insert? [DecidableEq κ] (m : OrderedMap κ α) (key : κ) : Option α → OrderedMap κ α
  | none => m
  | some value => m.insert key value

/-- The map that results from inserting the entries one after the other. -/
def ofList [DecidableEq κ] (entries : List (κ × α)) : OrderedMap κ α :=
  entries.foldl (fun m e => m.insert e.1 e.2) empty

/-- Applies a function to every value. -/
def mapValues (f : α → β) (m : OrderedMap κ α) : OrderedMap κ β :=
  ⟨m.entries.map fun e => (e.1, f e.2), by simpa [Function.comp_def] using m.nodup⟩

/-- Whether two maps have the same entries, in any order. -/
def same [DecidableEq κ] [DecidableEq α] (a b : OrderedMap κ α) : Bool :=
  a.size == b.size && a.entries.all fun e => decide (b.get? e.1 = some e.2)

/-- Looking up a key in a list of entries: the first entry answers for its key. -/
theorem lookup_entry [DecidableEq κ] (k : κ) (entry : κ × α) (rest : List (κ × α)) :
    (entry :: rest).lookup k = if k = entry.1 then some entry.2 else rest.lookup k := by
  obtain ⟨key, value⟩ := entry
  rw [List.lookup_cons]
  by_cases hk : k = key
  · subst hk
    simp
  · have hb : (k == key) = false := by simpa using hk
    rw [hb, if_neg hk]

/-- Looking up a key after placing a value: the placed key has the value, the others are as before. -/
theorem lookup_place [DecidableEq κ] (key : κ) (value : α) (entries : List (κ × α)) (k : κ) :
    (place key value entries).lookup k = if k = key then some value else entries.lookup k := by
  induction entries with
  | nil => exact lookup_entry k (key, value) []
  | cons entry rest ih =>
    by_cases h : entry.1 = key
    · rw [place, if_pos h, lookup_entry, lookup_entry, h]
      split <;> rfl
    · rw [place, if_neg h, lookup_entry, ih, lookup_entry]
      by_cases hk : k = key
      · subst hk
        rw [if_neg (Ne.symm h), if_pos rfl, if_pos rfl]
      · rw [if_neg hk, if_neg hk]

/-- Nothing is found in the empty map. -/
@[simp]
theorem get?_empty [DecidableEq κ] (k : κ) : (empty : OrderedMap κ α).get? k = none := rfl

/-- An inserted value is found at its key, and nothing changes elsewhere. -/
@[simp]
theorem get?_insert [DecidableEq κ] (m : OrderedMap κ α) (key : κ) (value : α) (k : κ) :
    (m.insert key value).get? k = if k = key then some value else m.get? k :=
  lookup_place key value m.entries k

/-- Setting a value when there is one changes the answer for its key alone. -/
@[simp]
theorem get?_insert? [DecidableEq κ] (m : OrderedMap κ α) (key : κ) (value? : Option α) (k : κ) :
    (m.insert? key value?).get? k = if k = key then value?.or (m.get? k) else m.get? k := by
  cases value? with
  | none => simp [insert?]
  | some value => simp [insert?]

/-- A new key comes last; a key that is there already keeps its place. -/
theorem keys_insert [DecidableEq κ] (m : OrderedMap κ α) (key : κ) (value : α) :
    (m.insert key value).keys = if key ∈ m.keys then m.keys else m.keys ++ [key] :=
  map_fst_place key value m.entries

/-- A new key comes behind all entries. -/
theorem place_of_notMem [DecidableEq κ] {key : κ} {value : α} {entries : List (κ × α)}
    (h : key ∉ entries.map Prod.fst) : place key value entries = entries ++ [(key, value)] := by
  induction entries with
  | nil => rfl
  | cons entry rest ih =>
    rw [List.map_cons, List.mem_cons, not_or] at h
    rw [place, if_neg (Ne.symm h.1), ih h.2, List.cons_append]

theorem entries_insert_new [DecidableEq κ] {m : OrderedMap κ α} {key : κ} {value : α}
    (h : key ∉ m.keys) : (m.insert key value).entries = m.entries ++ [(key, value)] :=
  place_of_notMem h

/-- A key has the value of its entry. -/
theorem get?_eq_some_iff [DecidableEq κ] (m : OrderedMap κ α) (key : κ) (value : α) :
    m.get? key = some value ↔ (key, value) ∈ m.entries := by
  obtain ⟨entries, hnodup⟩ := m
  change entries.lookup key = some value ↔ (key, value) ∈ entries
  induction entries with
  | nil => simp
  | cons entry rest ih =>
    rw [List.map_cons, List.nodup_cons] at hnodup
    rw [lookup_entry, List.mem_cons]
    by_cases hk : key = entry.1
    · -- no later entry has the key of this one
      have hrest : (key, value) ∉ rest := fun h =>
        hnodup.1 (hk ▸ List.mem_map_of_mem h)
      rw [if_pos hk, or_iff_left hrest, Option.some.injEq, Prod.ext_iff]
      exact ⟨fun h => ⟨hk, h.symm⟩, fun h => h.2.symm⟩
    · rw [if_neg hk, ih hnodup.2, or_iff_right fun h => hk (congrArg Prod.fst h)]

/-- A key has no value exactly when it is not among the keys. -/
theorem get?_eq_none_iff [DecidableEq κ] (m : OrderedMap κ α) (key : κ) :
    m.get? key = none ↔ key ∉ m.keys := by
  rw [get?, keys]
  induction m.entries with
  | nil => simp
  | cons entry rest ih =>
    rw [lookup_entry, List.map_cons, List.mem_cons, not_or]
    by_cases hk : key = entry.1
    · simp [hk]
    · rw [if_neg hk, ih]
      exact ⟨fun h => ⟨hk, h⟩, And.right⟩

/-- A function that is applied to every value is applied to what is found. -/
theorem get?_mapValues [DecidableEq κ] (f : α → β) (m : OrderedMap κ α) (key : κ) :
    (m.mapValues f).get? key = (m.get? key).map f := by
  change (m.entries.map fun entry => (entry.1, f entry.2)).lookup key = (m.entries.lookup key).map f
  induction m.entries with
  | nil => rfl
  | cons entry rest ih =>
    rw [List.map_cons, lookup_entry, lookup_entry, ih]
    split <;> rfl

end OrderedMap

end WikiDoc
