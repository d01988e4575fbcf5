import Mathlib.Data.List.Lex
import Mathlib.Order.Bounds.Basic
import WikiDoc.Proofs.Attribute.Display

/-!
Constraints under several levels of lists.

A value can fail such a constraint at many spots at once: it is no list although there are levels left, or
what stands at the last level is rejected. It is accepted if there is no such spot (`nested_accepts_iff`).
A list is rejected for its first item that is (`listOf_rejects`), and this one for its own first item, so
that level by level the indices lead to the failing spot that comes first in lexicographic order
(`isLeast_spot`). The message names these indices, and ends with what is said of the value that is found
there (`found_at_spot`).
-/

namespace WikiDoc

namespace Rejection

/-- What is said of the part that is rejected, without the indices that lead there. -/
def ground : Rejection → Rejection
  | .item _ inner => inner.ground
  | a => a

/-- A message names the items on the way, and then the reason. -/
theorem message_eq (a : Rejection) : a.message =
    String.join (a.spot.map fun index => "item " ++ index.repr ++ ": ") ++ a.ground.message := by
  induction a with
  | item index inner ih =>
    rw [message, ih, spot, ground, List.map_cons, String.join_cons, ← String.append_assoc]
  | _ => simp [spot, ground]

end Rejection

namespace Constraint

/-! ### One level of lists -/

theorem listOf_rejects_other {inner : Constraint} {v : AttrValue} (h : v.type ≠ .list) :
    (listOf inner).rejection? v = some (.wrongType .list v.type) := by
  cases v with
  | list items => exact absurd rfl h
  | _ => rfl

/-- A list is rejected for the first item that is. -/
theorem listOf_rejects {inner : Constraint} {items : List AttrValue} {a : Rejection}
    (h : (listOf inner).rejection? (.list items) = some a) :
    ∃ index item b, a = .item index b ∧ items[index]? = some item ∧ inner.rejection? item = some b ∧
      ∀ earlier < index, ∀ other, items[earlier]? = some other → inner.rejection? other = none := by
  obtain ⟨before, ⟨item, index⟩, after, hsplit, hitem, hbefore⟩ := List.findSome?_eq_some_iff.1 h
  obtain ⟨b, hb, rfl⟩ := Option.map_eq_some_iff.1 hitem
  obtain ⟨front, back, rfl, rfl, hback⟩ := List.zipIdx_eq_append_iff.1 hsplit
  obtain ⟨item', rest, rfl, hfirst, -⟩ := List.zipIdx_eq_cons_iff.1 hback.symm
  obtain ⟨rfl, rfl⟩ := Prod.mk.inj hfirst
  refine ⟨_, item, b, rfl, by simp, hb, fun earlier hearlier other hother => ?_⟩
  rw [Nat.zero_add] at hearlier
  rw [List.getElem?_append_left hearlier] at hother
  exact Option.map_eq_none_iff.1
    (hbefore (other, earlier) (List.mk_mem_zipIdx_iff_getElem?.2 hother))

/-! ### Several levels -/

/-- The constraint under so many levels of lists. -/
def nested (c : Constraint) : Nat → Constraint
  | 0 => c
  | depth + 1 => .listOf (c.nested depth)

/-- What is found at a spot is a list as long as there are levels left, and is accepted at the last one. -/
def Fits (c : Constraint) (depth : Nat) (spot : List Nat) (found : AttrValue) : Prop :=
  (spot.length < depth → found.type = .list) ∧ (spot.length = depth → c.rejection? found = none)

/-- The spots of a value at which it does not fit. -/
def misfits (c : Constraint) (depth : Nat) (v : AttrValue) : Set (List Nat) :=
  {spot | ∃ found, v.at? spot = some found ∧ ¬ c.Fits depth spot found}

variable {c : Constraint} {depth : Nat} {v : AttrValue}

theorem length_le_of_mem_misfits {spot : List Nat} (h : spot ∈ c.misfits depth v) :
    spot.length ≤ depth := by
  obtain ⟨found, -, hfails⟩ := h
  by_contra hlong
  exact hfails ⟨fun _ => by omega, fun _ => by omega⟩

theorem mem_misfits_zero {spot : List Nat} :
    spot ∈ c.misfits 0 v ↔ spot = [] ∧ c.rejection? v ≠ none := by
  cases spot with
  | nil => simp [misfits, Fits, AttrValue.at?]
  | cons index rest => simp [misfits, Fits]

theorem nil_mem_misfits : [] ∈ c.misfits (depth + 1) v ↔ v.type ≠ .list := by
  simp [misfits, Fits, AttrValue.at?]

/-- Further down, a value fails where its items do. -/
theorem cons_mem_misfits {index : Nat} {rest : List Nat} :
    index :: rest ∈ c.misfits (depth + 1) v ↔
      ∃ item, v.asList.bind (·[index]?) = some item ∧ rest ∈ c.misfits depth item := by
  simp only [misfits, Fits, Set.mem_ofPred_eq, AttrValue.at?, Option.bind_eq_some_iff, List.length_cons,
    Nat.add_lt_add_iff_right, Nat.add_right_cancel_iff]
  constructor
  · rintro ⟨found, ⟨item, hitem, hfound⟩, hfails⟩
    exact ⟨item, hitem, found, hfound, hfails⟩
  · rintro ⟨item, hitem, found, hfound, hfails⟩
    exact ⟨found, ⟨item, hitem, hfound⟩, hfails⟩

/-- A value is accepted if it fits at every spot. -/
theorem nested_accepts_iff : (c.nested depth).rejection? v = none ↔ c.misfits depth v = ∅ := by
  rw [Set.eq_empty_iff_forall_notMem]
  induction depth generalizing v with
  | zero => simp [nested, mem_misfits_zero]
  | succ depth ih =>
    cases v with
    | list items =>
      rw [nested, listOf_accepts_iff]
      constructor
      · intro h spot hspot
        cases spot with
        | nil => exact nil_mem_misfits.1 hspot rfl
        | cons index rest =>
          obtain ⟨item, hitem, hrest⟩ := cons_mem_misfits.1 hspot
          exact ih.1 (h item (List.mem_of_getElem? hitem)) rest hrest
      · intro h item hitem
        obtain ⟨index, hindex⟩ := List.mem_iff_getElem?.1 hitem
        refine ih.2 fun rest hrest => h (index :: rest) ?_
        exact cons_mem_misfits.2 ⟨item, hindex, hrest⟩
    | _ => exact iff_of_false nofun fun h => h [] (nil_mem_misfits.2 nofun)

/-- Only a constraint about items speaks of them. -/
theorem rejection?_ne_item {index : Nat} {a : Rejection} (hc : ∀ inner, c ≠ .listOf inner) :
    c.rejection? v ≠ some (.item index a) := by
  intro h
  cases c with
  | listOf inner => exact hc inner rfl
  | integer min max =>
    cases v with
    | int n =>
      rw [rejection?, AttrValue.asInt, expect, outside?] at h
      split at h
      · cases h
      · simp at h
    | _ => cases h
  | _ => cases v <;> simp [rejection?, expect, AttrValue.asText, AttrValue.asBool] at h

/-- A constraint that is not about items rejects a value as a whole. -/
theorem spot_of_rejected {a : Rejection} (hc : ∀ inner, c ≠ .listOf inner)
    (h : c.rejection? v = some a) : a.spot = [] ∧ a.ground = a := by
  cases a with
  | item index inner => exact absurd h (rejection?_ne_item hc)
  | _ => exact ⟨rfl, rfl⟩

/-- Where a value fails as a whole, nothing comes before that. -/
theorem isLeast_nil (h : [] ∈ c.misfits depth v) : IsLeast (c.misfits depth v) [] :=
  ⟨h, fun other _ => le_of_not_gt (List.not_lt_nil other)⟩

/-- The indices in a rejection lead to the first of the spots at which the value does not fit. -/
theorem isLeast_spot {a : Rejection} (hc : ∀ inner, c ≠ .listOf inner)
    (h : (c.nested depth).rejection? v = some a) : IsLeast (c.misfits depth v) a.spot := by
  induction depth generalizing v a with
  | zero =>
    rw [(spot_of_rejected hc h).1]
    refine isLeast_nil (mem_misfits_zero.2 ⟨rfl, fun hnone => ?_⟩)
    cases hnone.symm.trans h
  | succ depth ih =>
    cases v with
    | list items =>
      obtain ⟨index, item, b, rfl, hitem, hb, hearlier⟩ := listOf_rejects h
      obtain ⟨hmisfit, hleast⟩ := ih hb
      refine ⟨cons_mem_misfits.2 ⟨item, hitem, hmisfit⟩, fun other hother => ?_⟩
      cases other with
      | nil => exact absurd rfl (nil_mem_misfits.1 hother)
      | cons index' rest =>
        obtain ⟨item', hitem', hrest⟩ := cons_mem_misfits.1 hother
        rcases Nat.lt_trichotomy index index' with hlt | rfl | hgt
        · exact le_of_lt (List.Lex.rel hlt)
        · obtain rfl := Option.some.inj (hitem.symm.trans hitem')
          exact List.cons_le_cons index (hleast hrest)
        · -- an earlier item is accepted, so nothing fails below it
          have hnone := nested_accepts_iff.1 (hearlier index' hgt item' hitem')
          rw [hnone] at hrest
          cases hrest
    | _ =>
      cases h
      exact isLeast_nil (nil_mem_misfits.2 nofun)

/-- What is found at that spot is rejected by the constraint under the levels that are left, for the
reason at the end of the message. -/
theorem found_at_spot {a : Rejection} (hc : ∀ inner, c ≠ .listOf inner)
    (h : (c.nested depth).rejection? v = some a) : ∃ found, v.at? a.spot = some found ∧
      (c.nested (depth - a.spot.length)).rejection? found = some a.ground := by
  induction depth generalizing v a with
  | zero =>
    obtain ⟨hspot, hground⟩ := spot_of_rejected hc h
    exact ⟨v, by rw [hspot, AttrValue.at?], by rw [Nat.zero_sub, hground, h]⟩
  | succ depth ih =>
    cases v with
    | list items =>
      obtain ⟨index, item, b, rfl, hitem, hb, -⟩ := listOf_rejects h
      obtain ⟨found, hfound, hreason⟩ := ih hb
      refine ⟨found, ?_, ?_⟩
      · rw [Rejection.spot, AttrValue.at?, AttrValue.asList, Option.bind_some, hitem, Option.bind_some,
          hfound]
      · rw [Rejection.spot, Rejection.ground, List.length_cons, Nat.add_sub_add_right, hreason]
    | _ =>
      cases h
      exact ⟨_, rfl, rfl⟩

end Constraint

/-- Under any number of levels of lists, a constraint accepts a value exactly if all that indices lead to is
a list as long as there are levels left, and is accepted at the last one. Otherwise the rejection leads to
the first spot in lexicographic order where this is not so: its message names the items on the way, and ends
with what the constraint says of the value there under the levels that are left. That is a value that is no
list, or one at the last level. -/
theorem nested_rejects_first {c : Constraint} (hc : ∀ inner, c ≠ .listOf inner) (depth : Nat)
    (v : AttrValue) :
    ((c.nested depth).rejection? v = none ↔ ∀ spot found, spot.length ≤ depth →
      v.at? spot = some found → c.Fits depth spot found) ∧
    ∀ a, (c.nested depth).rejection? v = some a →
      IsLeast (c.misfits depth v) a.spot ∧ a.spot.length ≤ depth ∧
      ∃ found reason, v.at? a.spot = some found ∧
        (c.nested (depth - a.spot.length)).rejection? found = some reason ∧
        a.message =
          String.join (a.spot.map fun index => "item " ++ index.repr ++ ": ") ++ reason.message ∧
        (a.spot.length < depth →
          found.type ≠ .list ∧ reason.message = "expected list, found " ++ found.type.name) ∧
        (a.spot.length = depth → c.rejection? found = some reason) := by
  constructor
  · rw [Constraint.nested_accepts_iff, Set.eq_empty_iff_forall_notMem]
    constructor
    · intro h spot found _ hfound
      by_contra hfails
      exact h spot ⟨found, hfound, hfails⟩
    · intro h spot hspot
      have hlength := Constraint.length_le_of_mem_misfits hspot
      obtain ⟨found, hfound, hfails⟩ := hspot
      exact hfails (h spot found hlength hfound)
  · intro a ha
    have hleast := Constraint.isLeast_spot hc ha
    obtain ⟨found, hfound, hreason⟩ := Constraint.found_at_spot hc ha
    refine ⟨hleast, Constraint.length_le_of_mem_misfits hleast.1, found, a.ground, hfound, hreason,
      a.message_eq, ?_, ?_⟩
    · intro habove
      obtain ⟨found', hfound', hfails⟩ := hleast.1
      obtain rfl := Option.some.inj (hfound.symm.trans hfound')
      have htype : found.type ≠ .list := fun htype => hfails ⟨fun _ => htype, fun hlast => by omega⟩
      obtain ⟨left, hleft⟩ := Nat.exists_eq_add_of_lt (Nat.sub_pos_of_lt habove)
      rw [hleft, Nat.zero_add, Constraint.nested, Constraint.listOf_rejects_other htype] at hreason
      rw [← Option.some.inj hreason]
      exact ⟨htype, rfl⟩
    · intro hlast
      rwa [hlast, Nat.sub_self] at hreason

/-- Rows of digits. The first grid is wrong at four spots, and the first of them is reported; in the second
one a wrong digit comes behind a row that is no list. -/
theorem nested_rejects_first_grid :
    let digit : Constraint := .range 0 9
    let grid : AttrValue :=
      .list [.list [], .list [.int 3, .int 12, .text "x"], .text "a", .list [.int (-1)]]
    let a : Rejection := .item 1 (.item 1 (.aboveMaximum 12 9))
    let gap : AttrValue := .list [.list [.int 3], .bool true, .list [.int 12]]
    let b : Rejection := .item 1 (.wrongType .list .bool)
    (∀ inner, digit ≠ .listOf inner) ∧
      (digit.nested 2).rejection? grid = some a ∧ IsLeast (digit.misfits 2 grid) [1, 1] ∧
      a.message = "item 1: item 1: 12 is greater than the maximum 9" ∧
      (digit.nested 2).rejection? gap = some b ∧ IsLeast (digit.misfits 2 gap) [1] ∧
      b.message = "item 1: expected list, found boolean" := by
  intro digit grid a gap b
  have hdigit : ∀ inner, digit ≠ .listOf inner := nofun
  have ha : (digit.nested 2).rejection? grid = some a := by decide
  have hb : (digit.nested 2).rejection? gap = some b := by decide
  exact ⟨hdigit, ha, ((nested_rejects_first hdigit 2 grid).2 a ha).1, by decide +kernel,
    hb, ((nested_rejects_first hdigit 2 gap).2 b hb).1, by decide +kernel⟩

end WikiDoc
