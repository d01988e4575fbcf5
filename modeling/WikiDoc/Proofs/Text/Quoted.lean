import Mathlib.Data.List.Basic
import WikiDoc.Text.Quoted

/-!
Reading numerals and quoted texts off the front of a longer text.

A numeral ends where no digit follows, and a quoted text at the first quote that is not part of an escape.
So both can be read in one way only, whatever comes behind them (`toDigits_append_inj`,
`quote_append_inj`). For quoted texts this rests on how characters may be written (`Escaped`), not on which
of them are hidden.
-/

namespace WikiDoc.Text

/-- The rest of a text does not start with a character of the kind. -/
def Stops (kind : Char → Bool) (rest : List Char) : Prop := ∀ c ∈ rest.head?, kind c = false

theorem stops_nil (kind : Char → Bool) : Stops kind [] := nofun

theorem stops_cons {kind : Char → Bool} {c : Char} {rest : List Char} (h : kind c = false) :
    Stops kind (c :: rest) := by
  rintro _ ⟨⟩
  exact h

section Splitting

variable {kind : Char → Bool} {front rest : List Char} (hfront : ∀ c ∈ front, kind c = true)
  (hrest : Stops kind rest)

include hfront hrest

theorem takeWhile_append_of_stops : (front ++ rest).takeWhile kind = front := by
  rw [List.takeWhile_append_of_pos hfront]
  cases rest with
  | nil => simp
  | cons c rest => simp [hrest c rfl]

theorem dropWhile_append_of_stops : (front ++ rest).dropWhile kind = rest := by
  rw [List.dropWhile_append_of_pos hfront]
  cases rest with
  | nil => simp
  | cons c rest => simp [hrest c rfl]

/-- Characters of one kind in front of a rest that stops them are split off in one way only. -/
theorem append_inj_of_stops {front' rest' : List Char} (hfront' : ∀ c ∈ front', kind c = true)
    (hrest' : Stops kind rest') (h : front ++ rest = front' ++ rest') :
    front = front' ∧ rest = rest' := by
  constructor
  · rw [← takeWhile_append_of_stops hfront hrest, h, takeWhile_append_of_stops hfront' hrest']
  · rw [← dropWhile_append_of_stops hfront hrest, h, dropWhile_append_of_stops hfront' hrest']

end Splitting

/-! ### Numerals -/

/-- The value of a digit, of those up to fifteen. -/
def digitValue (c : Char) : Nat :=
  if c.toNat < 'a'.toNat then c.toNat - '0'.toNat else c.toNat - 'a'.toNat + 10

theorem digitValue_digitChar : ∀ d < 16, digitValue d.digitChar = d := by decide

section Numerals

variable {b : Nat} (hb : 1 < b)

include hb

theorem mem_toDigits {n : Nat} {c : Char} (hc : c ∈ Nat.toDigits b n) : ∃ d < b, c = d.digitChar := by
  induction n using Nat.strongRecOn with
  | ind n ih =>
    rw [Nat.toDigits_eq_if hb] at hc
    split at hc
    · next hn => exact ⟨n, hn, List.mem_singleton.1 hc⟩
    · rcases List.mem_append.1 hc with hc | hc
      · exact ih (n / b) (Nat.div_lt_self (by omega) hb) hc
      · exact ⟨n % b, Nat.mod_lt n (by omega), List.mem_singleton.1 hc⟩

/-- The digits of a number, read in their base, give the number. -/
theorem foldl_digitValue_toDigits (hsixteen : b ≤ 16) (n : Nat) :
    (Nat.toDigits b n).foldl (fun value c => b * value + digitValue c) 0 = n := by
  induction n using Nat.strongRecOn with
  | ind n ih =>
    rw [Nat.toDigits_eq_if hb]
    split
    · next hn => simp [digitValue_digitChar n (by omega)]
    · have hdigit : n % b < b := Nat.mod_lt n (by omega)
      rw [List.foldl_append, ih (n / b) (Nat.div_lt_self (by omega) hb), List.foldl_cons, List.foldl_nil,
        digitValue_digitChar (n % b) (by omega), Nat.div_add_mod]

/-- A numeral in front of a rest that does not go on with its digits is read in one way only. -/
theorem toDigits_append_inj (hsixteen : b ≤ 16) {kind : Char → Bool}
    (hkind : ∀ d < b, kind d.digitChar = true) {m n : Nat} {s t : List Char} (hs : Stops kind s)
    (ht : Stops kind t) (h : Nat.toDigits b m ++ s = Nat.toDigits b n ++ t) : m = n ∧ s = t := by
  have hall : ∀ n, ∀ c ∈ Nat.toDigits b n, kind c = true := by
    intro n c hc
    obtain ⟨d, hd, rfl⟩ := mem_toDigits hb hc
    exact hkind d hd
  obtain ⟨hdigits, hrest⟩ := append_inj_of_stops (hall m) hs (hall n) ht h
  refine ⟨?_, hrest⟩
  rw [← foldl_digitValue_toDigits hb hsixteen m, hdigits, foldl_digitValue_toDigits hb hsixteen n]

end Numerals

/-! ### Quoted texts -/

/-- The characters that are written as a backslash and a letter, each with the letter. -/
def shortEscapes : List (Char × Char) :=
  [('\x00', '0'), ('\t', 't'), ('\r', 'r'), ('\n', 'n'), ('"', '"'), ('\\', '\\')]

/-- The ways in which a character may be written between quotes. -/
inductive Escaped (c : Char) : List Char → Prop
  | short {letter : Char} : (c, letter) ∈ shortEscapes → Escaped c ['\\', letter]
  | code : Escaped c (codeEscape c)
  | plain : c ≠ '\\' → c ≠ '"' → Escaped c [c]

theorem escaped_quoteChar (c : Char) : Escaped c (quoteChar c) := by
  unfold quoteChar
  split_ifs with hnull htab hreturn hfeed hquote hbackslash hhidden
  · exact .short (by simp [shortEscapes, hnull])
  · exact .short (by simp [shortEscapes, htab])
  · exact .short (by simp [shortEscapes, hreturn])
  · exact .short (by simp [shortEscapes, hfeed])
  · exact .short (by simp [shortEscapes, hquote])
  · exact .short (by simp [shortEscapes, hbackslash])
  · exact .code
  · exact .plain hbackslash hquote

theorem shortEscapes_inj : ∀ a ∈ shortEscapes, ∀ b ∈ shortEscapes, a.2 = b.2 → a.1 = b.1 := by decide

theorem shortEscapes_ne_code : ∀ a ∈ shortEscapes, a.2 ≠ 'u' := by decide

/-- No character is written so that it starts like the quote at the end. -/
theorem Escaped.append_ne {c : Char} {a : List Char} (ha : Escaped c a) (s t : List Char) :
    a ++ s ≠ '"' :: t := by
  intro h
  cases ha with
  | short hletter => simp at h
  | code => simp [codeEscape] at h
  | plain hbackslash hquote => exact hquote (List.cons.inj h).1

/-- Of two code points, the closing brace ends both. -/
theorem codeEscape_append_inj {c d : Char} {s t : List Char}
    (h : codeEscape c ++ s = codeEscape d ++ t) : c = d ∧ s = t := by
  have hbrace : ∀ rest, Stops (· != '\x7d') ('\x7d' :: rest) := fun rest => stops_cons rfl
  have hdigits : Nat.toDigits 16 c.toNat ++ '\x7d' :: s = Nat.toDigits 16 d.toNat ++ '\x7d' :: t := by
    simpa [codeEscape] using h
  obtain ⟨hcode, hrest⟩ :=
    toDigits_append_inj (by decide) (Nat.le_refl 16) (by decide) (hbrace s) (hbrace t) hdigits
  exact ⟨Char.toNat_inj.1 hcode, (List.cons.inj hrest).2⟩

/-- A written character is read in one way only. -/
theorem Escaped.append_inj {c d : Char} {a b s t : List Char} (ha : Escaped c a) (hb : Escaped d b)
    (h : a ++ s = b ++ t) : c = d ∧ s = t := by
  -- the first character tells what stands for itself, and the second the kind of escape
  cases ha with
  | short hc =>
    cases hb with
    | short hd =>
      obtain ⟨hletter, hrest⟩ := List.cons.inj (List.cons.inj h).2
      exact ⟨shortEscapes_inj _ hc _ hd hletter, hrest⟩
    | code => exact absurd (List.cons.inj (List.cons.inj h).2).1 (shortEscapes_ne_code _ hc)
    | plain hbackslash _ => exact absurd (List.cons.inj h).1.symm hbackslash
  | code =>
    cases hb with
    | short hd => exact absurd (List.cons.inj (List.cons.inj h).2).1.symm (shortEscapes_ne_code _ hd)
    | code => exact codeEscape_append_inj h
    | plain hbackslash _ => exact absurd (List.cons.inj h).1.symm hbackslash
  | plain hbackslash _ =>
    cases hb with
    | short hd => exact absurd (List.cons.inj h).1 hbackslash
    | code => exact absurd (List.cons.inj h).1 hbackslash
    | plain _ _ => exact List.cons.inj h

/-- Characters between quotes are read in one way only: each by itself, up to the closing quote. -/
theorem flatMap_quoteChar_append_inj {a b s t : List Char}
    (h : a.flatMap quoteChar ++ '"' :: s = b.flatMap quoteChar ++ '"' :: t) : a = b ∧ s = t := by
  induction a generalizing b with
  | nil =>
    cases b with
    | nil => exact ⟨rfl, (List.cons.inj h).2⟩
    | cons d b =>
      rw [List.flatMap_cons, List.append_assoc] at h
      exact absurd h.symm ((escaped_quoteChar d).append_ne _ _)
  | cons c a ih =>
    rw [List.flatMap_cons, List.append_assoc] at h
    cases b with
    | nil => exact absurd h ((escaped_quoteChar c).append_ne _ _)
    | cons d b =>
      rw [List.flatMap_cons, List.append_assoc] at h
      obtain ⟨rfl, hlater⟩ := (escaped_quoteChar c).append_inj (escaped_quoteChar d) h
      obtain ⟨rfl, hrest⟩ := ih hlater
      exact ⟨rfl, hrest⟩

/-- A quoted text is read in one way only, whatever comes behind it. -/
theorem quote_append_inj {a b s t : List Char} (h : quote a ++ s = quote b ++ t) : a = b ∧ s = t := by
  refine flatMap_quoteChar_append_inj ?_
  simpa [quote] using h

end WikiDoc.Text
