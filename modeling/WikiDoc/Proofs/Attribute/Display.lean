import WikiDoc.Document.Media
import WikiDoc.Proofs.Attribute.Conformance
import WikiDoc.Proofs.Text.Quoted
import WikiDoc.Validation.Finding

/-!
Reading attribute values in messages.

The first character of a value that is shown tells its type (`exists_lead`). From there on the value can be
read in one way only, as long as no digit follows it (`chars_append_inj`): the items of a list are each
ended by a comma or a bracket, whatever commas and brackets stand in the texts among them. So values that
are shown alike are equal. Messages that are worded alike lead to the same item and show the same value
(`spot_eq_of_message_eq`), which is the value that is found there (`exists_shown_of_rejected`).
-/

namespace WikiDoc

/-- The type of a value that is shown with the character in front, if there is one. -/
def ValueType.ofLead? (c : Char) : Option ValueType :=
  if c = '"' then some .text
  else if c = 't' ∨ c = 'f' then some .bool
  else if c = '-' ∨ c.isDigit then some .int
  else if c = '[' then some .list
  else none

namespace AttrValue

open Text (Stops stops_nil stops_cons)

/-! ### Integers -/

theorem isDigit_digitChar : ∀ d < 10, d.digitChar.isDigit = true := by decide

theorem ofLead?_digitChar : ∀ d < 10, ValueType.ofLead? d.digitChar = some .int := by decide

/-- A number that is not negative starts with a digit. -/
theorem toDigits_eq_cons (n : Nat) : ∃ d < 10, ∃ rest, Nat.toDigits 10 n = d.digitChar :: rest := by
  cases hdigits : Nat.toDigits 10 n with
  | nil => exact absurd hdigits Nat.toDigits_ne_nil
  | cons c rest =>
    obtain ⟨d, hd, rfl⟩ := Text.mem_toDigits (b := 10) (by decide) (hdigits ▸ List.mem_cons_self)
    exact ⟨d, hd, rest, rfl⟩

/-- An integer is read in one way only in front of anything but a digit. -/
theorem decimal_append_inj {m n : Int} {s t : List Char} (hs : Stops Char.isDigit s)
    (ht : Stops Char.isDigit t) (h : decimal m ++ s = decimal n ++ t) : m = n ∧ s = t := by
  have hdigits : ∀ {k l : Nat}, Nat.toDigits 10 k ++ s = Nat.toDigits 10 l ++ t → k = l ∧ s = t :=
    Text.toDigits_append_inj (by decide) (by decide) isDigit_digitChar hs ht
  have hminus : ∀ {k : Nat} {rest u : List Char}, Nat.toDigits 10 k ++ u ≠ '-' :: rest := by
    intro k rest u hminus
    obtain ⟨d, hd, digits, hk⟩ := toDigits_eq_cons k
    rw [hk] at hminus
    have := isDigit_digitChar d hd
    rw [(List.cons.inj hminus).1] at this
    cases this
  unfold decimal at h
  split at h <;> split at h
  · obtain ⟨hvalue, hrest⟩ := hdigits (List.cons.inj h).2
    exact ⟨by omega, hrest⟩
  · exact absurd h.symm hminus
  · exact absurd h hminus
  · obtain ⟨hvalue, hrest⟩ := hdigits h
    exact ⟨by omega, hrest⟩

/-! ### Values -/

/-- The first character of a value tells its type. -/
theorem exists_lead (v : AttrValue) :
    ∃ c rest, v.chars = c :: rest ∧ ValueType.ofLead? c = some v.type := by
  cases v with
  | text value => exact ⟨_, _, by rw [chars]; rfl, rfl⟩
  | bool value => cases value <;> exact ⟨_, _, by rw [chars], rfl⟩
  | int value =>
    rw [chars, decimal]
    split
    · exact ⟨_, _, rfl, rfl⟩
    · obtain ⟨d, hd, rest, hdigits⟩ := toDigits_eq_cons value.natAbs
      exact ⟨_, _, hdigits, ofLead?_digitChar d hd⟩
  | list items =>
    cases items with
    | nil => exact ⟨_, _, by rw [chars], rfl⟩
    | cons item rest => exact ⟨_, _, by rw [chars]; rfl, rfl⟩

theorem type_eq_of_chars {v w : AttrValue} {s t : List Char} (h : v.chars ++ s = w.chars ++ t) :
    v.type = w.type := by
  obtain ⟨c, rest, hv, hc⟩ := v.exists_lead
  obtain ⟨d, rest', hw, hd⟩ := w.exists_lead
  rw [hv, hw] at h
  rw [(List.cons.inj h).1, hd] at hc
  exact (Option.some.inj hc).symm

theorem chars_append_ne {v : AttrValue} {c : Char} (hc : ValueType.ofLead? c = none)
    (s t : List Char) : v.chars ++ s ≠ c :: t := by
  obtain ⟨d, rest, hv, hd⟩ := v.exists_lead
  rw [hv]
  intro h
  rw [(List.cons.inj h).1, hc] at hd
  cases hd

theorem chars_list_nil (s : List Char) : (list []).chars ++ s = '[' :: ']' :: s := by
  rw [chars]
  rfl

theorem chars_list_cons (item : AttrValue) (items : List AttrValue) (s : List Char) :
    (list (item :: items)).chars ++ s = '[' :: (item.chars ++ (laterChars items ++ ']' :: s)) := by
  rw [chars]
  simp only [List.cons_append, List.append_assoc, List.nil_append]

theorem laterChars_cons (item : AttrValue) (items : List AttrValue) (s : List Char) :
    laterChars (item :: items) ++ s = ',' :: ' ' :: (item.chars ++ (laterChars items ++ s)) := by
  rw [laterChars]
  simp only [List.cons_append, List.append_assoc]

theorem stops_laterChars (items : List AttrValue) (rest : List Char) :
    Stops Char.isDigit (laterChars items ++ ']' :: rest) := by
  cases items with
  | nil => rw [laterChars]; exact stops_cons rfl
  | cons item items => rw [laterChars_cons]; exact stops_cons rfl

mutual

/-- A value is read in one way only in front of anything but a digit. -/
theorem chars_append_inj : ∀ (v w : AttrValue) {s t : List Char}, Stops Char.isDigit s →
    Stops Char.isDigit t → v.chars ++ s = w.chars ++ t → v = w ∧ s = t
  | .text a, w, s, t, _, _, h => by
    have htype := type_eq_of_chars h
    cases w with
    | text b =>
      rw [chars, chars] at h
      obtain ⟨htext, hrest⟩ := Text.quote_append_inj h
      exact ⟨congrArg text (String.toList_inj.1 htext), hrest⟩
    | _ => cases htype
  | .bool a, w, s, t, _, _, h => by
    have htype := type_eq_of_chars h
    cases w with
    | bool b =>
      cases a <;> cases b
      · exact ⟨rfl, List.append_cancel_left h⟩
      · rw [chars, chars] at h
        cases (List.cons.inj h).1
      · rw [chars, chars] at h
        cases (List.cons.inj h).1
      · exact ⟨rfl, List.append_cancel_left h⟩
    | _ => cases htype
  | .int m, w, s, t, hs, ht, h => by
    have htype := type_eq_of_chars h
    cases w with
    | int n =>
      rw [chars, chars] at h
      obtain ⟨rfl, hrest⟩ := decimal_append_inj hs ht h
      exact ⟨rfl, hrest⟩
    | _ => cases htype
  | .list vs, w, s, t, _, _, h => by
    have htype := type_eq_of_chars h
    cases w with
    | list ws =>
      obtain ⟨rfl, hrest⟩ := listChars_append_inj vs ws h
      exact ⟨rfl, hrest⟩
    | _ => cases htype

/-- A list is read up to the bracket that closes it. -/
theorem listChars_append_inj : ∀ (vs ws : List AttrValue) {s t : List Char},
    (list vs).chars ++ s = (list ws).chars ++ t → vs = ws ∧ s = t
  | [], [], s, t, h => ⟨rfl, List.append_cancel_left h⟩
  | [], w :: ws, s, t, h => by
    rw [chars_list_nil, chars_list_cons] at h
    exact absurd (List.cons.inj h).2.symm (chars_append_ne rfl _ _)
  | v :: vs, [], s, t, h => by
    rw [chars_list_cons, chars_list_nil] at h
    exact absurd (List.cons.inj h).2 (chars_append_ne rfl _ _)
  | v :: vs, w :: ws, s, t, h => by
    rw [chars_list_cons, chars_list_cons] at h
    obtain ⟨rfl, hlater⟩ :=
      chars_append_inj v w (stops_laterChars vs s) (stops_laterChars ws t) (List.cons.inj h).2
    obtain ⟨rfl, hrest⟩ := laterChars_append_inj vs ws hlater
    exact ⟨rfl, hrest⟩

/-- The items after the first are each read behind their comma, up to the closing bracket. -/
theorem laterChars_append_inj : ∀ (vs ws : List AttrValue) {s t : List Char},
    laterChars vs ++ ']' :: s = laterChars ws ++ ']' :: t → vs = ws ∧ s = t
  | [], [], s, t, h => ⟨rfl, (List.cons.inj (List.append_cancel_left h)).2⟩
  | [], w :: ws, s, t, h => by
    rw [laterChars, laterChars_cons] at h
    cases (List.cons.inj h).1
  | v :: vs, [], s, t, h => by
    rw [laterChars, laterChars_cons] at h
    cases (List.cons.inj h).1
  | v :: vs, w :: ws, s, t, h => by
    rw [laterChars_cons, laterChars_cons] at h
    obtain ⟨rfl, hlater⟩ := chars_append_inj v w (stops_laterChars vs s) (stops_laterChars ws t)
      (List.cons.inj (List.cons.inj h).2).2
    obtain ⟨rfl, hrest⟩ := laterChars_append_inj vs ws hlater
    exact ⟨rfl, hrest⟩

end

theorem display_inj {v w : AttrValue} (h : v.display = w.display) : v = w := by
  have hchars : v.chars ++ [] = w.chars ++ [] := congrArg (· ++ []) (String.ofList_inj.1 h)
  exact (chars_append_inj v w (stops_nil _) (stops_nil _) hchars).1

end AttrValue

/-- The value that is reached through the items with the indices. -/
def AttrValue.at? (v : AttrValue) : List Nat → Option AttrValue
  | [] => some v
  | index :: rest => (v.asList.bind (·[index]?)).bind (·.at? rest)

/-! ### Messages -/

namespace Rejection

/-- The indices of the items that lead from a value to the part that is rejected. -/
def spot : Rejection → List Nat
  | .item index inner => index :: inner.spot
  | _ => []

/-- The value that the wording of a rejection shows, if there is one: a value of the wrong type is not
shown. -/
def quoted? : Rejection → Option AttrValue
  | .wrongType _ _ => none
  | .multipleLines text | .notListed text _ | .noMatch text _ => some (.text text)
  | .belowMinimum value _ | .aboveMaximum value _ => some (.int value)
  | .item _ inner => inner.quoted?

/-- The wordings of rejections, with the spot that they name and the value that they show: they start with
the type that was expected, with the value, or with the index of an item. -/
inductive Wording : List Nat → Option AttrValue → List Char → Prop
  | type (rest : List Char) : Wording [] none ("expected ".toList ++ rest)
  | value (v : AttrValue) (rest : List Char) : Wording [] (some v) (v.chars ++ ' ' :: rest)
  | item {spot : List Nat} {quoted : Option AttrValue} (index : Nat) {rest : List Char} :
      Wording spot quoted rest →
      Wording (index :: spot) quoted ("item ".toList ++ Nat.toDigits 10 index ++ ':' :: ' ' :: rest)

/-- A wording that goes on with a blank behind the value that it starts with. -/
theorem Wording.of_display (v : AttrValue) (tail : String) :
    Wording [] (some v) (v.display ++ (" " ++ tail)).toList := by
  have h := Wording.value v tail.toList
  simpa [AttrValue.display] using h

theorem wording_message (a : Rejection) : Wording a.spot a.quoted? a.message.toList := by
  induction a with
  | wrongType expected found =>
    rw [message, String.append_assoc, String.append_assoc, String.toList_append]
    exact .type _
  | multipleLines text => exact .of_display _ "spans multiple lines"
  | belowMinimum value min =>
    rw [message, String.append_assoc]
    exact .of_display _ ("is less than the minimum " ++ _)
  | aboveMaximum value max =>
    rw [message, String.append_assoc]
    exact .of_display _ ("is greater than the maximum " ++ _)
  | notListed text literals =>
    rw [message, String.append_assoc]
    exact .of_display _ ("is not one of: " ++ _)
  | noMatch text description =>
    rw [message, String.append_assoc]
    exact .of_display _ ("does not match " ++ description)
  | item index inner ih =>
    have h := Wording.item index ih
    simpa [message, spot, quoted?] using h

/-- A wording names one spot and shows one value only. -/
theorem Wording.unique {spot spot' : List Nat} {p q : Option AttrValue} {s t : List Char}
    (hp : Wording spot p s) (hq : Wording spot' q t) (h : s = t) : spot = spot' ∧ p = q := by
  have hblank : ∀ rest, Text.Stops Char.isDigit (' ' :: rest) := fun rest => Text.stops_cons rfl
  have hcolon : ∀ rest, Text.Stops Char.isDigit (':' :: rest) := fun rest => Text.stops_cons rfl
  induction hp generalizing spot' q t with
  | type rest =>
    cases hq with
    | type rest' => exact ⟨rfl, rfl⟩
    | value w rest' => exact absurd h.symm (AttrValue.chars_append_ne rfl _ _)
    | item index hq => cases (List.cons.inj h).1
  | value v rest =>
    cases hq with
    | type rest' => exact absurd h (AttrValue.chars_append_ne rfl _ _)
    | value w rest' =>
      obtain ⟨rfl, -⟩ := AttrValue.chars_append_inj v w (hblank rest) (hblank rest') h
      exact ⟨rfl, rfl⟩
    | item index hq => exact absurd h (AttrValue.chars_append_ne rfl _ _)
  | item index hp ih =>
    cases hq with
    | type rest' => cases (List.cons.inj h).1
    | value w rest' => exact absurd h.symm (AttrValue.chars_append_ne rfl _ _)
    | item index' hq =>
      rw [List.append_assoc, List.append_assoc] at h
      obtain ⟨rfl, hrest⟩ := Text.toDigits_append_inj (by decide) (by decide)
        AttrValue.isDigit_digitChar (hcolon _) (hcolon _) (List.append_cancel_left h)
      obtain ⟨rfl, hquoted⟩ := ih hq (List.cons.inj (List.cons.inj hrest).2).2
      exact ⟨rfl, hquoted⟩

/-- A wording holds the characters of the value that it shows. -/
theorem Wording.exists_eq_append {spot : List Nat} {v : AttrValue} {s : List Char}
    (h : Wording spot (some v) s) : ∃ front rest, s = front ++ v.chars ++ rest := by
  generalize hquoted : some v = quoted at h
  induction h with
  | type rest => cases hquoted
  | value w rest =>
    cases hquoted
    exact ⟨[], ' ' :: rest, rfl⟩
  | item index _ ih =>
    obtain ⟨front, rest, rfl⟩ := ih hquoted
    exact ⟨"item ".toList ++ Nat.toDigits 10 index ++ ':' :: ' ' :: front, rest, by simp⟩

/-- Rejections that are worded alike are about the same spot and show the same value. -/
theorem spot_eq_of_message_eq {a b : Rejection} (h : a.message = b.message) :
    a.spot = b.spot ∧ a.quoted? = b.quoted? :=
  a.wording_message.unique b.wording_message (congrArg String.toList h)

/-- The value that a rejection is said to show stands in its message. -/
theorem message_eq_of_quoted {a : Rejection} {v : AttrValue} (h : a.quoted? = some v) :
    ∃ front rest, a.message = front ++ v.display ++ rest := by
  obtain ⟨front, rest, hmessage⟩ := (h ▸ a.wording_message).exists_eq_append
  refine ⟨String.ofList front, String.ofList rest, String.toList_inj.1 ?_⟩
  simpa [AttrValue.display] using hmessage

end Rejection

namespace Constraint

/-- A value that is rejected for another reason than its type is handed to the test. -/
theorem exists_of_expect {β : Type} {expected : ValueType} {v : AttrValue} {payload : Option β}
    {test : β → Option Rejection} {a : Rejection} (h : expect expected v payload test = some a)
    (ha : a.isTypeError = false) : ∃ content, payload = some content ∧ test content = some a := by
  cases payload with
  | none =>
    cases h
    cases ha
  | some content => exact ⟨content, rfl, h⟩

/-- So is a text, and what the test says of it is said of the value. -/
theorem quoted?_of_text {v : AttrValue} {test : String → Option Rejection} {a : Rejection}
    (h : expect .text v v.asText test = some a) (ha : a.isTypeError = false)
    (htest : ∀ text, test text = some a → a.spot = [] ∧ a.quoted? = some (.text text)) :
    a.spot = [] ∧ a.quoted? = some v := by
  obtain ⟨text, htext, hrejects⟩ := exists_of_expect h ha
  cases v with
  | text value =>
    cases htext
    exact htest _ hrejects
  | _ => cases htext

/-- A constraint that is not about items shows the value that it rejects, unless that has the wrong type. -/
theorem quoted?_of_rejected {c : Constraint} {v : AttrValue} {a : Rejection}
    (hc : ∀ inner, c ≠ .listOf inner) (h : c.rejection? v = some a) (ha : a.isTypeError = false) :
    a.spot = [] ∧ a.quoted? = some v := by
  cases c with
  | any => cases h
  | text => exact quoted?_of_text h ha nofun
  | url =>
    refine quoted?_of_text h ha fun text htext => ?_
    split at htext <;> cases htext
    exact ⟨rfl, rfl⟩
  | bool =>
    obtain ⟨value, -, hrejects⟩ := exists_of_expect h ha
    cases hrejects
  | integer min max =>
    obtain ⟨value, hvalue, hrejects⟩ := exists_of_expect h ha
    cases v with
    | int n =>
      cases hvalue
      unfold outside? at hrejects
      split at hrejects
      · cases hrejects
        exact ⟨rfl, rfl⟩
      · obtain ⟨high, -, rfl⟩ := Option.map_eq_some_iff.1 hrejects
        exact ⟨rfl, rfl⟩
    | _ => cases hvalue
  | oneOf literals =>
    refine quoted?_of_text h ha fun text htext => ?_
    split at htext <;> cases htext
    exact ⟨rfl, rfl⟩
  | pattern description accepts =>
    refine quoted?_of_text h ha fun text htext => ?_
    split at htext <;> cases htext
    exact ⟨rfl, rfl⟩
  | listOf inner => exact absurd rfl (hc inner)

/-- The value at the spot of a rejection is the one that is shown, unless that has the wrong type. -/
theorem exists_shown_of_rejected {c : Constraint} {v : AttrValue} {a : Rejection}
    (h : c.rejection? v = some a) (ha : a.isTypeError = false) :
    ∃ shown, v.at? a.spot = some shown ∧ a.quoted? = some shown := by
  induction c generalizing v a with
  | listOf inner ih =>
    obtain ⟨items, hitems, hrejects⟩ := exists_of_expect h ha
    obtain ⟨⟨item, index⟩, hitem, hinner⟩ := List.exists_of_findSome?_eq_some hrejects
    obtain ⟨b, hb, rfl⟩ := Option.map_eq_some_iff.1 hinner
    obtain ⟨shown, hshown, hquoted⟩ := ih hb ha
    refine ⟨shown, ?_, hquoted⟩
    rw [Rejection.spot, AttrValue.at?, hitems, Option.bind_some,
      List.mk_mem_zipIdx_iff_getElem?.1 hitem, Option.bind_some, hshown]
  | _ =>
    obtain ⟨hspot, hquoted⟩ := quoted?_of_rejected (by nofun) h ha
    exact ⟨v, by rw [hspot, AttrValue.at?], hquoted⟩

end Constraint

/-- Values of any nesting that are shown alike are equal. So a message tells which value was rejected: two
messages about one attribute that are worded alike name the same spot and show the same value, and unless a
value has the wrong type, the one that is found at the spot is shown, in the message itself. -/
theorem display_unambiguous :
    (∀ v w : AttrValue, v.display = w.display → v = w) ∧
    (∀ (name : String) (a b : Rejection), (Violation.badAttribute (.invalid name a)).message =
      (Violation.badAttribute (.invalid name b)).message → a.spot = b.spot ∧ a.quoted? = b.quoted?) ∧
    ∀ (c : Constraint) (v : AttrValue) (a : Rejection), c.rejection? v = some a → a.isTypeError = false →
      ∃ shown, v.at? a.spot = some shown ∧ a.quoted? = some shown ∧
        ∃ front rest, a.message = front ++ shown.display ++ rest := by
  refine ⟨fun v w => AttrValue.display_inj, ?_, ?_⟩
  · intro name a b h
    exact Rejection.spot_eq_of_message_eq ((String.append_right_inj _).1 h)
  · intro c v a h ha
    obtain ⟨shown, hshown, hquoted⟩ := Constraint.exists_shown_of_rejected h ha
    exact ⟨shown, hshown, hquoted, Rejection.message_eq_of_quoted hquoted⟩

/-- A list of one text and a list of two that differ in two backslashes, and a list whose second item has two
lines and is no placement. -/
theorem display_unambiguous_lookalikes :
    let one : AttrValue := .list [.text "a\", \"b", .int (-1)]
    let two : AttrValue := .list [.text "a", .text "b", .int (-1)]
    let placements : Constraint := .listOf (.oneOf Media.locations)
    let given : AttrValue := .list [.text "left", .text "a\nb"]
    let rejection : Rejection := .item 1 (.notListed "a\nb" Media.locations)
    one.display = "[\"a\\\", \\\"b\", -1]" ∧ two.display = "[\"a\", \"b\", -1]" ∧ one.display ≠ two.display ∧
      placements.rejection? given = some rejection ∧ rejection.isTypeError = false ∧
      ∃ shown, given.at? [1] = some shown ∧ rejection.quoted? = some shown := by
  intro one two placements given rejection
  obtain ⟨hdisplay, -, hshown⟩ := display_unambiguous
  have hrejected : placements.rejection? given = some rejection := by decide
  obtain ⟨shown, hspot, hquoted, -⟩ := hshown placements given rejection hrejected rfl
  refine ⟨by decide +kernel, by decide +kernel, ?_, hrejected, rfl, shown, hspot, hquoted⟩
  exact fun h => absurd (hdisplay one two h) (by decide)

end WikiDoc
