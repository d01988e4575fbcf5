import Mathlib.Computability.RegularExpressions
import WikiDoc.Kind.Baseline
import WikiDoc.Proofs.Text.Quoted

/-!
The forms of attribute texts, as grammars.

A scan for digits stops at the first character that is none, so a number in front of anything that does
not start with a digit is found as it was written (`number_before_iff`). Each test then accepts exactly
the texts of its grammar: the sizes of media (`isMediaSize_iff`), positive integers and pixel lengths. The
sizes are also those that a regular expression matches as a whole (`isMediaSize_iff_matches`).
-/

namespace WikiDoc.Form

/-- One or more of the digits `0` to `9`. -/
def Digits (text : String) : Prop := text ≠ "" ∧ ∀ c ∈ text.toList, '0' ≤ c ∧ c ≤ '9'

/-- The sizes of media: widths, heights, both, and factors of the upright size. -/
inductive MediaSize : String → Prop
  | width {d : String} : Digits d → MediaSize (d ++ "px")
  | height {d : String} : Digits d → MediaSize ("x" ++ d ++ "px")
  | box {d e : String} : Digits d → Digits e → MediaSize (d ++ "x" ++ e ++ "px")
  | upright : MediaSize "upright"
  | whole {d : String} : Digits d → MediaSize ("upright=" ++ d)
  | mixed {d e : String} : Digits d → Digits e → MediaSize ("upright=" ++ d ++ "." ++ e)
  | fraction {d : String} : Digits d → MediaSize ("upright=." ++ d)

/-- A number in decimal notation that is not zero. -/
def PositiveNumber (text : String) : Prop := Digits text ∧ 0 < Nat.ofDigitChars 10 text.toList 0

/-! ### Numbers -/

theorem isDigit_iff {c : Char} : isDigit c = true ↔ '0' ≤ c ∧ c ≤ '9' := by
  rw [isDigit, Bool.and_eq_true, decide_eq_true_iff, decide_eq_true_iff]

theorem isNumber_iff {text : List Char} :
    isNumber text = true ↔ text ≠ [] ∧ ∀ c ∈ text, isDigit c = true := by
  simp [isNumber]

theorem isNumber_toList {text : String} : isNumber text.toList = true ↔ Digits text := by
  simp only [isNumber_iff, Digits, isDigit_iff, ne_eq, String.toList_eq_nil_iff]

theorem digits_ofList {text : List Char} (h : isNumber text = true) : Digits (String.ofList text) :=
  isNumber_toList.1 (by rwa [String.toList_ofList])

/-- A number in front of something that does not start with a digit. -/
theorem number_before_iff (test : List Char → Bool)
    (htest : ∀ rest, test rest = true → Text.Stops isDigit rest) {text : List Char} :
    (isNumber (text.takeWhile isDigit) && test (text.dropWhile isDigit)) = true ↔
      ∃ digits rest, isNumber digits = true ∧ test rest = true ∧ text = digits ++ rest := by
  rw [Bool.and_eq_true]
  constructor
  · rintro ⟨hdigits, hrest⟩
    exact ⟨_, _, hdigits, hrest, List.takeWhile_append_dropWhile.symm⟩
  · rintro ⟨digits, rest, hdigits, hrest, rfl⟩
    have hall := (isNumber_iff.1 hdigits).2
    rw [Text.takeWhile_append_of_stops hall (htest rest hrest),
      Text.dropWhile_append_of_stops hall (htest rest hrest)]
    exact ⟨hdigits, hrest⟩

/-! ### Sizes -/

theorem isWidth_iff {text : List Char} :
    isWidth text = true ↔ ∃ d, isNumber d = true ∧ text = d ++ ['p', 'x'] := by
  have hpx : ∀ rest, (rest == ['p', 'x']) = true → Text.Stops isDigit rest := by
    intro rest h
    rw [beq_iff_eq.1 h]
    exact Text.stops_cons rfl
  refine (number_before_iff (· == ['p', 'x']) hpx).trans ?_
  simp only [beq_iff_eq, exists_eq_left, exists_and_left]

theorem isHeight_iff {text : List Char} :
    isHeight text = true ↔ ∃ d, isNumber d = true ∧ text = 'x' :: d ++ ['p', 'x'] := by
  constructor
  · intro h
    unfold isHeight at h
    split at h
    · obtain ⟨d, hd, rfl⟩ := isWidth_iff.1 h
      exact ⟨d, hd, rfl⟩
    · cases h
  · rintro ⟨d, hd, rfl⟩
    exact isWidth_iff.2 ⟨d, hd, rfl⟩

theorem isBox_iff {text : List Char} : isBox text = true ↔ ∃ d e, isNumber d = true ∧
    isNumber e = true ∧ text = d ++ 'x' :: e ++ ['p', 'x'] := by
  have hx : ∀ rest, isHeight rest = true → Text.Stops isDigit rest := by
    intro rest h
    obtain ⟨d, -, rfl⟩ := isHeight_iff.1 h
    exact Text.stops_cons rfl
  refine (number_before_iff isHeight hx).trans ?_
  constructor
  · rintro ⟨d, rest, hd, hrest, rfl⟩
    obtain ⟨e, he, rfl⟩ := isHeight_iff.1 hrest
    exact ⟨d, e, hd, he, (List.append_assoc ..).symm⟩
  · rintro ⟨d, e, hd, he, rfl⟩
    exact ⟨d, 'x' :: e ++ ['p', 'x'], hd, isHeight_iff.2 ⟨e, he, rfl⟩, List.append_assoc ..⟩

theorem isFraction_iff {text : List Char} :
    isFraction text = true ↔ ∃ d, isNumber d = true ∧ text = '.' :: d := by
  constructor
  · intro h
    unfold isFraction at h
    split at h
    · exact ⟨_, h, rfl⟩
    · cases h
  · rintro ⟨d, hd, rfl⟩
    exact hd

theorem isFactor_iff {text : List Char} : isFactor text = true ↔ isNumber text = true ∨
    (∃ d, isNumber d = true ∧ text = '.' :: d) ∨
      ∃ d e, isNumber d = true ∧ isNumber e = true ∧ text = d ++ '.' :: e := by
  have hpoint : ∀ rest, isFraction rest = true → Text.Stops isDigit rest := by
    intro rest h
    obtain ⟨d, -, rfl⟩ := isFraction_iff.1 h
    exact Text.stops_cons rfl
  have hmixed : (∃ d rest, isNumber d = true ∧ isFraction rest = true ∧ text = d ++ rest) ↔
      ∃ d e, isNumber d = true ∧ isNumber e = true ∧ text = d ++ '.' :: e := by
    constructor
    · rintro ⟨d, rest, hd, hrest, rfl⟩
      obtain ⟨e, he, rfl⟩ := isFraction_iff.1 hrest
      exact ⟨d, e, hd, he, rfl⟩
    · rintro ⟨d, e, hd, he, rfl⟩
      exact ⟨d, '.' :: e, hd, isFraction_iff.2 ⟨e, he, rfl⟩, rfl⟩
  rw [isFactor, Bool.or_eq_true, Bool.or_eq_true, number_before_iff isFraction hpoint, hmixed,
    isFraction_iff, or_assoc]

theorem afterStart_eq_some {start text rest : List Char} :
    afterStart start text = some rest ↔ text = start ++ rest := by
  rw [afterStart]
  constructor
  · intro h
    split at h
    · next hstart =>
      obtain ⟨tail, rfl⟩ := List.isPrefixOf_iff_prefix.1 hstart
      rw [List.drop_left, Option.some.injEq] at h
      rw [h]
    · cases h
  · rintro rfl
    rw [if_pos (List.isPrefixOf_iff_prefix.2 (List.prefix_append start rest)), List.drop_left]

theorem isUpright_iff {text : List Char} : isUpright text = true ↔ text = "upright".toList ∨
    ∃ factor, isFactor factor = true ∧ text = "upright".toList ++ '=' :: factor := by
  constructor
  · intro h
    unfold isUpright at h
    split at h
    · next hrest => exact Or.inl ((afterStart_eq_some.1 hrest).trans (List.append_nil _))
    · next factor hrest => exact Or.inr ⟨factor, h, afterStart_eq_some.1 hrest⟩
    · cases h
  · rintro (rfl | ⟨factor, hfactor, htext⟩)
    · rfl
    · rw [isUpright, afterStart_eq_some.2 htext]
      exact hfactor

/-- The factors of the upright size follow the grammar. -/
theorem MediaSize.of_factor {text : String} {factor : List Char} (h : isFactor factor = true)
    (htext : text.toList = "upright".toList ++ '=' :: factor) : MediaSize text := by
  rcases isFactor_iff.1 h with hd | ⟨d, hd, rfl⟩ | ⟨d, e, hd, he, rfl⟩
  · obtain rfl : text = "upright=" ++ String.ofList factor := String.toList_inj.1 (by simp [htext])
    exact .whole (digits_ofList hd)
  · obtain rfl : text = "upright=." ++ String.ofList d := String.toList_inj.1 (by simp [htext])
    exact .fraction (digits_ofList hd)
  · obtain rfl : text = "upright=" ++ String.ofList d ++ "." ++ String.ofList e :=
      String.toList_inj.1 (by simp [htext])
    exact .mixed (digits_ofList hd) (digits_ofList he)

/-- The test of media sizes accepts exactly the texts of the grammar. -/
theorem isMediaSize_iff {text : String} : isMediaSize text = true ↔ MediaSize text := by
  rw [isMediaSize, Bool.or_eq_true, Bool.or_eq_true, Bool.or_eq_true, isWidth_iff, isHeight_iff,
    isBox_iff, isUpright_iff]
  constructor
  · rintro (((⟨d, hd, htext⟩ | ⟨d, hd, htext⟩) | ⟨d, e, hd, he, htext⟩) | htext | ⟨_, hfactor, htext⟩)
    · obtain rfl : text = String.ofList d ++ "px" := String.toList_inj.1 (by simp [htext])
      exact .width (digits_ofList hd)
    · obtain rfl : text = "x" ++ String.ofList d ++ "px" := String.toList_inj.1 (by simp [htext])
      exact .height (digits_ofList hd)
    · obtain rfl : text = String.ofList d ++ "x" ++ String.ofList e ++ "px" :=
        String.toList_inj.1 (by simp [htext])
      exact .box (digits_ofList hd) (digits_ofList he)
    · obtain rfl : text = "upright" := String.toList_inj.1 htext
      exact .upright
    · exact .of_factor hfactor htext
  · intro h
    cases h with
    | width hd => exact Or.inl (Or.inl (Or.inl ⟨_, isNumber_toList.2 hd, by simp⟩))
    | height hd => exact Or.inl (Or.inl (Or.inr ⟨_, isNumber_toList.2 hd, by simp⟩))
    | box hd he =>
      exact Or.inl (Or.inr ⟨_, _, isNumber_toList.2 hd, isNumber_toList.2 he, by simp⟩)
    | upright => exact Or.inr (Or.inl rfl)
    | whole hd =>
      have hfactor := isFactor_iff.2 (Or.inl (isNumber_toList.2 hd))
      exact Or.inr (Or.inr ⟨_, hfactor, by simp⟩)
    | mixed hd he =>
      have hfactor := isFactor_iff.2
        (Or.inr (Or.inr ⟨_, _, isNumber_toList.2 hd, isNumber_toList.2 he, rfl⟩))
      exact Or.inr (Or.inr ⟨_, hfactor, by simp⟩)
    | fraction hd =>
      have hfactor := isFactor_iff.2 (Or.inr (Or.inl ⟨_, isNumber_toList.2 hd, rfl⟩))
      exact Or.inr (Or.inr ⟨_, hfactor, by simp⟩)

example : ["5px", "x5px", "5x07px", "upright", "upright=.5", "upright=1.5"].all isMediaSize ∧
    ["px", "x5", "5px\n", "+5px", "٣px", "5x5x5px", "upright=", "upright=5."].any isMediaSize
      = false := by
  decide

/-! ### Sizes by a regular expression -/

section Pattern

open RegularExpression

/-- Matches one text only. -/
def word (text : String) : RegularExpression Char := (text.toList.map char).prod

/-- The pattern `[0-9]`. -/
def digit : RegularExpression Char := ("0123456789".toList.map char).sum

/-- The pattern `[0-9]+`. -/
def number : RegularExpression Char := digit * digit.star

/-- The pattern `[0-9]+(?:\.[0-9]+)?|\.[0-9]+`. -/
def factorPattern : RegularExpression Char := number * (word "." * number + 1) + word "." * number

/-- The pattern of sizes: `[0-9]+px|x[0-9]+px|[0-9]+x[0-9]+px|upright|upright=(?:…)`, with the factors in
the group. A text is a size if the pattern matches all of it. -/
def sizePattern : RegularExpression Char :=
  number * word "px" + word "x" * number * word "px" + number * word "x" * number * word "px" +
    word "upright" + word "upright=" * factorPattern

theorem mem_word {text : String} {l : List Char} : l ∈ (word text).matches' ↔ l = text.toList := by
  rw [word]
  induction text.toList generalizing l with
  | nil => exact Language.mem_one l
  | cons c rest ih =>
    rw [List.map_cons, List.prod_cons, matches'_mul, Language.mem_mul]
    constructor
    · rintro ⟨front, hfront, back, hback, rfl⟩
      rw [ih] at hback
      subst hback
      cases hfront
      rfl
    · rintro rfl
      exact ⟨[c], rfl, rest, ih.2 rfl, rfl⟩

theorem mem_digit {l : List Char} : l ∈ digit.matches' ↔ ∃ c, isDigit c = true ∧ l = [c] := by
  have hany : ∀ chars : List Char, l ∈ ((chars.map char).sum).matches' ↔ ∃ c ∈ chars, l = [c] := by
    intro chars
    induction chars with
    | nil => exact iff_of_false (Language.notMem_zero l) (by simp)
    | cons c rest ih =>
      rw [List.map_cons, List.sum_cons, matches'_add, Language.mem_add, ih, List.exists_mem_cons_iff]
      rfl
  have hdigit : ∀ c, c ∈ "0123456789".toList ↔ isDigit c = true := by
    intro c
    have hrange : '0' ≤ c ∧ c ≤ '9' ↔ 48 ≤ c.toNat ∧ c.toNat ≤ 57 := Iff.rfl
    rw [isDigit_iff, hrange]
    simp only [String.reduceToList, List.mem_cons, List.not_mem_nil, or_false, ← Char.toNat_inj,
      Char.reduceToNat]
    omega
  rw [digit, hany]
  exact exists_congr fun c => and_congr_left fun _ => hdigit c

theorem mem_number {l : List Char} : l ∈ number.matches' ↔ isNumber l = true := by
  rw [isNumber_iff, number, matches'_mul, matches'_star, Language.mem_mul]
  constructor
  · rintro ⟨front, hfront, back, hback, rfl⟩
    obtain ⟨c, hc, rfl⟩ := mem_digit.1 hfront
    obtain ⟨parts, rfl, hparts⟩ := Language.mem_kstar.1 hback
    refine ⟨List.cons_ne_nil c _, List.forall_mem_cons.2 ⟨hc, ?_⟩⟩
    intro d hd
    obtain ⟨part, hpart, hmem⟩ := List.mem_flatten.1 hd
    obtain ⟨e, he, rfl⟩ := mem_digit.1 (hparts part hpart)
    rwa [List.mem_singleton.1 hmem]
  · rintro ⟨hne, hall⟩
    cases l with
    | nil => exact absurd rfl hne
    | cons c rest =>
      rw [List.forall_mem_cons] at hall
      refine ⟨[c], mem_digit.2 ⟨c, hall.1, rfl⟩, rest, ?_, rfl⟩
      refine Language.mem_kstar.2 ⟨rest.map fun d => [d], (List.flatMap_singleton' rest).symm, ?_⟩
      intro part hpart
      obtain ⟨d, hd, rfl⟩ := List.mem_map.1 hpart
      exact mem_digit.2 ⟨d, hall.2 d hd, rfl⟩

theorem mem_word_mul {start : String} {p : RegularExpression Char} {l : List Char} :
    l ∈ (word start * p).matches' ↔ ∃ rest ∈ p.matches', l = start.toList ++ rest := by
  simp only [matches'_mul, Language.mem_mul, mem_word, exists_eq_left, eq_comm]

theorem mem_mul_word {p : RegularExpression Char} {ending : String} {l : List Char} :
    l ∈ (p * word ending).matches' ↔ ∃ front ∈ p.matches', l = front ++ ending.toList := by
  simp only [matches'_mul, Language.mem_mul, mem_word, exists_eq_left, eq_comm]

theorem mem_height {l : List Char} :
    l ∈ (word "x" * number * word "px").matches' ↔ isHeight l = true := by
  rw [mem_mul_word, isHeight_iff]
  simp only [mem_word_mul, mem_number]
  constructor
  · rintro ⟨_, ⟨d, hd, rfl⟩, h⟩
    exact ⟨d, hd, h⟩
  · rintro ⟨d, hd, h⟩
    exact ⟨_, ⟨d, hd, rfl⟩, h⟩

theorem mem_box {l : List Char} :
    l ∈ (number * word "x" * number * word "px").matches' ↔ isBox l = true := by
  rw [mem_mul_word, isBox_iff]
  simp only [matches'_mul (number * word "x") number, Language.mem_mul, mem_mul_word, mem_number]
  constructor
  · rintro ⟨_, ⟨_, ⟨d, hd, rfl⟩, e, he, rfl⟩, rfl⟩
    exact ⟨d, e, hd, he, by simp⟩
  · rintro ⟨d, e, hd, he, rfl⟩
    exact ⟨_, ⟨_, ⟨d, hd, rfl⟩, e, he, rfl⟩, by simp⟩

theorem mem_fraction {l : List Char} : l ∈ (word "." * number).matches' ↔ isFraction l = true := by
  rw [mem_word_mul, isFraction_iff]
  simp only [mem_number]
  rfl

theorem mem_factor {l : List Char} : l ∈ factorPattern.matches' ↔ isFactor l = true := by
  rw [factorPattern, matches'_add, Language.mem_add, mem_fraction, isFraction_iff, isFactor_iff,
    matches'_mul, Language.mem_mul]
  simp only [matches'_add, Language.mem_add, mem_fraction, isFraction_iff, mem_number]
  constructor
  · rintro (⟨d, hd, rest, ⟨e, he, rfl⟩ | rfl, rfl⟩ | hpoint)
    · exact Or.inr (Or.inr ⟨d, e, hd, he, rfl⟩)
    · exact Or.inl ((List.append_nil d).symm ▸ hd)
    · exact Or.inr (Or.inl hpoint)
  · rintro (hnumber | hpoint | ⟨d, e, hd, he, rfl⟩)
    · exact Or.inl ⟨l, hnumber, [], Or.inr rfl, List.append_nil l⟩
    · exact Or.inr hpoint
    · exact Or.inl ⟨d, hd, _, Or.inl ⟨e, he, rfl⟩, rfl⟩

/-- The test of media sizes accepts exactly the texts that the pattern matches as a whole. -/
theorem isMediaSize_iff_matches {text : String} :
    isMediaSize text = true ↔ text.toList ∈ sizePattern.matches' := by
  simp only [sizePattern, matches'_add, Language.mem_add, mem_height, mem_box, mem_word]
  rw [mem_mul_word, mem_word_mul]
  simp only [mem_number, mem_factor]
  rw [isMediaSize, Bool.or_eq_true, Bool.or_eq_true, Bool.or_eq_true, isWidth_iff, isUpright_iff,
    ← or_assoc]
  rfl

end Pattern

/-! ### Positive numbers and lengths -/

/-- The value of digits is zero only if all of them are. -/
theorem ofDigitChars_pos_iff {text : List Char} (h : ∀ c ∈ text, isDigit c = true) (init : Nat) :
    0 < Nat.ofDigitChars 10 text init ↔ 0 < init ∨ ∃ c ∈ text, c ≠ '0' := by
  induction text generalizing init with
  | nil => simp
  | cons c text ih =>
    rw [List.forall_mem_cons] at h
    have hlow : '0'.toNat ≤ c.toNat := (isDigit_iff.1 h.1).1
    have hzero : c = '0' ↔ c.toNat = '0'.toNat := Char.toNat_inj.symm
    have hc : 0 < 10 * init + (c.toNat - '0'.toNat) ↔ 0 < init ∨ c ≠ '0' := by
      rw [Ne, hzero]
      omega
    rw [Nat.ofDigitChars_cons, ih h.2, hc, or_assoc]
    simp

theorem isPositive_iff {text : String} : isPositive text.toList = true ↔ PositiveNumber text := by
  rw [isPositive, Bool.and_eq_true, isNumber_toList, PositiveNumber]
  refine and_congr_right fun h => ?_
  rw [ofDigitChars_pos_iff (isNumber_iff.1 (isNumber_toList.2 h)).2]
  simp

theorem dropUnit_append (number : List Char) : dropUnit (number ++ ['p', 'x']) = number := by
  rw [dropUnit, if_pos (List.isSuffixOf_iff_suffix.2 (List.suffix_append ..)), List.length_append]
  exact List.take_left

/-- There is no unit behind a text of digits only. -/
theorem dropUnit_of_number {number : List Char} (h : isNumber number = true) :
    dropUnit number = number := by
  refine if_neg fun hsuffix => ?_
  obtain ⟨front, rfl⟩ := List.isSuffixOf_iff_suffix.1 hsuffix
  have hx := (isNumber_iff.1 h).2 'x' (by simp)
  cases hx

/-- The test of pixel lengths accepts positive numbers with one unit behind them or none. -/
theorem isPixelLength_iff {text : String} : isPixelLength text = true ↔
    PositiveNumber text ∨ ∃ number, PositiveNumber number ∧ text = number ++ "px" := by
  rw [isPixelLength]
  constructor
  · intro h
    by_cases hsuffix : ['p', 'x'] <:+ text.toList
    · obtain ⟨number, htext⟩ := hsuffix
      rw [← htext, dropUnit_append, ← String.toList_ofList (l := number), isPositive_iff] at h
      exact Or.inr ⟨_, h, String.toList_inj.1 (by simp [← htext])⟩
    · rw [dropUnit, if_neg fun h => hsuffix (List.isSuffixOf_iff_suffix.1 h), isPositive_iff] at h
      exact Or.inl h
  · rintro (h | ⟨number, h, rfl⟩)
    · rw [dropUnit_of_number (isNumber_toList.2 h.1)]
      exact isPositive_iff.2 h
    · have hunit : (number ++ "px").toList = number.toList ++ ['p', 'x'] := by simp
      rw [hunit, dropUnit_append]
      exact isPositive_iff.2 h

end WikiDoc.Form

namespace WikiDoc

/-- The tests that the rules of media and galleries make of texts accept exactly what the rules describe. A
size is a width, a height, both or an upright factor, with one or more digits for each number, which is what
the pattern of sizes matches. The images in a row of a gallery are a positive number, and its widths and
heights are one with or without a single unit behind it. -/
theorem forms_exact (text : String) :
    (Form.isMediaSize text = true ↔ Form.MediaSize text) ∧
    (Form.isMediaSize text = true ↔ text.toList ∈ Form.sizePattern.matches') ∧
    (Form.isPositiveInteger text = true ↔ Form.PositiveNumber text) ∧
    (Form.isPixelLength text = true ↔ Form.PositiveNumber text ∨
      ∃ number, Form.PositiveNumber number ∧ text = number ++ "px") ∧
    (∃ description, .optional "size" (.pattern description Form.isMediaSize) ∈ Media.rules) ∧
    (∃ description,
      .optional "perrow" (.pattern description Form.isPositiveInteger) ∈ Baseline.galleryRules) ∧
    (∃ description, .optional "widths" (.pattern description Form.isPixelLength) ∈ Baseline.galleryRules) ∧
    ∃ description, .optional "heights" (.pattern description Form.isPixelLength) ∈ Baseline.galleryRules := by
  have hsize : .optional "size" Media.size ∈ Media.rules :=
    List.mem_append_right _ (by simp [Media.optionRules])
  have hperrow : .optional "perrow" (.pattern "a positive integer" Form.isPositiveInteger) ∈
      Baseline.galleryRules := by simp [Baseline.galleryRules]
  have hwidths : .optional "widths" Baseline.pixelLength ∈ Baseline.galleryRules := by
    simp [Baseline.galleryRules]
  have hheights : .optional "heights" Baseline.pixelLength ∈ Baseline.galleryRules := by
    simp [Baseline.galleryRules]
  exact ⟨Form.isMediaSize_iff, Form.isMediaSize_iff_matches, Form.isPositive_iff, Form.isPixelLength_iff,
    ⟨_, hsize⟩, ⟨_, hperrow⟩, ⟨_, hwidths⟩, ⟨_, hheights⟩⟩

end WikiDoc
