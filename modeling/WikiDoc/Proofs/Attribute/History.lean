import Mathlib.Data.Finset.Card
import WikiDoc.Proofs.Attribute.Sameness

/-!
What becomes of attributes, whatever assignments they go through.

Every history comes down to the assignments that it makes, in order (`ofHistory_eq`). Each of them either
puts a new name behind the others or leaves the names alone, which keeps them in the order in which they are
first assigned (`InFirstOrder.step`), and gives its name a value in place of the last one (`get?_ofList`).
Two histories end in the same attributes exactly if they leave every name the same value
(`same_iff_get?`), whatever the order in which the names came up.
-/

namespace WikiDoc

namespace OrderedMap

variable {κ α : Type} [DecidableEq κ]

/-- The keys are those that are named, in the order in which they are named first. -/
structure InFirstOrder (named keys : List κ) : Prop where
  mem_iff : ∀ key, key ∈ keys ↔ key ∈ named
  increasing : keys.Pairwise fun a b => named.idxOf a < named.idxOf b

/-- One more key is named: it comes last, unless it is there already. -/
theorem InFirstOrder.step {named keys : List κ} (h : InFirstOrder named keys) (key : κ) :
    InFirstOrder (named ++ [key]) (if key ∈ keys then keys else keys ++ [key]) := by
  have hstays : keys.Pairwise fun a b => (named ++ [key]).idxOf a < (named ++ [key]).idxOf b := by
    refine h.increasing.imp_of_mem fun ha hb hab => ?_
    rwa [List.idxOf_append_of_mem ((h.mem_iff _).1 ha), List.idxOf_append_of_mem ((h.mem_iff _).1 hb)]
  split
  · next hold =>
    refine ⟨fun k => ?_, hstays⟩
    rw [h.mem_iff, List.mem_append, List.mem_singleton]
    exact ⟨Or.inl, fun hk => hk.elim id fun heq => heq ▸ (h.mem_iff key).1 hold⟩
  · next hnew =>
    refine ⟨fun k => by rw [List.mem_append, h.mem_iff, List.mem_append], ?_⟩
    refine List.pairwise_append.2 ⟨hstays, List.pairwise_singleton _ _, fun a ha b hb => ?_⟩
    obtain rfl := List.mem_singleton.1 hb
    have hnamed := (h.mem_iff a).1 ha
    rw [List.idxOf_append_of_mem hnamed, List.idxOf_append_of_notMem (mt (h.mem_iff b).2 hnew)]
    exact Nat.lt_add_right _ (List.idxOf_lt_length_iff.2 hnamed)

theorem ofList_concat (entries : List (κ × α)) (entry : κ × α) :
    ofList (entries ++ [entry]) = (ofList entries).insert entry.1 entry.2 := List.foldl_concat ..

/-- Entries that are inserted one after the other leave the keys in the order of their first entries. -/
theorem inFirstOrder_ofList (entries : List (κ × α)) :
    InFirstOrder (entries.map Prod.fst) (ofList entries).keys := by
  induction entries using List.reverseRecOn with
  | nil => exact ⟨fun _ => Iff.rfl, .nil⟩
  | append_singleton entries entry ih =>
    rw [ofList_concat, keys_insert, List.map_append]
    exact ih.step entry.1

/-- The values that entries give to a key, in order. -/
def valuesAt (key : κ) (entries : List (κ × α)) : List α :=
  entries.filterMap fun entry => if entry.1 = key then some entry.2 else none

/-- A key has the value of its last entry. -/
theorem get?_ofList (entries : List (κ × α)) (key : κ) :
    (ofList entries).get? key = (valuesAt key entries).getLast? := by
  induction entries using List.reverseRecOn with
  | nil => rfl
  | append_singleton entries entry ih =>
    rw [ofList_concat, get?_insert, ih, valuesAt, valuesAt, List.filterMap_append]
    by_cases hkey : entry.1 = key
    · simp [hkey]
    · simp [hkey, Ne.symm hkey]

theorem size_ofList (entries : List (κ × α)) :
    (ofList entries).size = (entries.map Prod.fst).toFinset.card := by
  have hkeys : (ofList entries).keys.toFinset = (entries.map Prod.fst).toFinset := by
    ext key
    rw [List.mem_toFinset, List.mem_toFinset, (inFirstOrder_ofList entries).mem_iff]
  have hnodup : (ofList entries).keys.Nodup := (ofList entries).nodup
  rw [← hkeys, List.toFinset_card_of_nodup hnodup, keys, List.length_map, size]

end OrderedMap

/-- A change to attributes: a value is set, or set when there is one to set. Whether the map is changed in
place or handed on with the change is the same here. -/
inductive AttributeEdit where
  | set (name : String) (value : AttrValue)
  | setOptional (name : String) (value? : Option AttrValue)

namespace AttributeEdit

/-- Makes the change. -/
def apply (attrs : Attributes) : AttributeEdit → Attributes
  | .set name value => attrs.insert name value
  | .setOptional name value? => attrs.insert? name value?

/-- The name and the value that it is given, if there is one. -/
def assignment? : AttributeEdit → Option (String × AttrValue)
  | .set name value => some (name, value)
  | .setOptional name value? => value?.map (name, ·)

end AttributeEdit

namespace Attributes

/-- The attributes that start from some pairs and go through some changes. -/
def ofHistory (initial : List (String × AttrValue)) (edits : List AttributeEdit) : Attributes :=
  edits.foldl AttributeEdit.apply (OrderedMap.ofList initial)

/-- Every assignment of a history, in order. -/
def assignments (initial : List (String × AttrValue)) (edits : List AttributeEdit) :
    List (String × AttrValue) :=
  initial ++ edits.filterMap AttributeEdit.assignment?

/-- A history is the sequence of its assignments. -/
theorem ofHistory_eq (initial : List (String × AttrValue)) (edits : List AttributeEdit) :
    ofHistory initial edits = OrderedMap.ofList (assignments initial edits) := by
  rw [ofHistory, assignments, OrderedMap.ofList, OrderedMap.ofList, List.foldl_append,
    List.foldl_filterMap]
  congr 1
  funext attrs edit
  cases edit with
  | set name value => rfl
  | setOptional name value? => cases value? <;> rfl

end Attributes

/-- Whatever pairs attributes start from and whatever changes they go through, they list each name that ever
got a value once, in the order of first assignment; a name has the value that it was given last; and
there are as many attributes as different names. The results of two histories are the same exactly if
every name has the same value in both. -/
theorem attributes_settled (initial initial' : List (String × AttrValue))
    (edits edits' : List AttributeEdit) :
    let attrs := Attributes.ofHistory initial edits
    let assigned := Attributes.assignments initial edits
    let names := assigned.map Prod.fst
    (attrs.keys.Nodup ∧ (∀ name, name ∈ attrs.keys ↔ ∃ value, (name, value) ∈ assigned) ∧
      attrs.keys.Pairwise fun a b => names.idxOf a < names.idxOf b) ∧
    (∀ name, attrs.get? name = (OrderedMap.valuesAt name assigned).getLast?) ∧
    attrs.size = names.toFinset.card ∧
    (attrs.same (Attributes.ofHistory initial' edits') = true ↔
      ∀ name, attrs.get? name = (Attributes.ofHistory initial' edits').get? name) := by
  intro attrs assigned names
  have hattrs : attrs = OrderedMap.ofList assigned := Attributes.ofHistory_eq initial edits
  obtain ⟨hmem, hincreasing⟩ := OrderedMap.inFirstOrder_ofList assigned
  rw [hattrs]
  refine ⟨⟨(OrderedMap.ofList assigned).nodup, fun name => ?_, hincreasing⟩,
    OrderedMap.get?_ofList assigned, OrderedMap.size_ofList assigned, OrderedMap.same_iff_get?⟩
  rw [hmem, List.mem_map]
  exact ⟨fun ⟨entry, hentry, hname⟩ => ⟨entry.2, hname ▸ hentry⟩, fun ⟨value, h⟩ => ⟨_, h, rfl⟩⟩

/-- The order of names does not count, that of the items in a nested list does. -/
example :
    let list (items : List AttrValue) := AttrValue.list [.list items]
    let attrs := Attributes.ofHistory [("a", .bool true)] [.set "b" (list [.int 1, .int 2])]
    let swapped := Attributes.ofHistory [("b", .int 0)]
      [.set "a" (.bool true), .setOptional "a" none, .setOptional "b" (list [.int 1, .int 2])]
    let other := attrs.insert "b" (list [.int 2, .int 1])
    swapped.keys = ["b", "a"] ∧ attrs.same swapped = true ∧ attrs.same other = false := by
  decide

end WikiDoc
