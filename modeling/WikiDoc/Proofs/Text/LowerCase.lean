import WikiDoc.Proofs.Text.Words
import WikiDoc.Text.LowerCase

/-!
Lower-casing leads from words to words, and doing it again changes nothing.

Both rest on the table of capitals: no run of it leads to a capital of any run, nor to white space. This
is checked run against run (`caseRuns_avoid`, `caseRuns_miss`), which settles it for all code points. So
every character of a lower-cased word is its own lower-case form (`IsLower`), the two forms of sigma
included, and none is white space.
-/

namespace WikiDoc.Text

namespace CaseRun

variable {run other : CaseRun} {code low high : Nat}

/-- No lower-case form of the run lies in a range. -/
def misses (run : CaseRun) (low high : Nat) : Bool :=
  Nat.blt (run.lower run.last) low || Nat.blt high (run.lower run.first)

/-- No lower-case form of the run is a capital of the other one: the two lie apart, or out of step. -/
def avoids (run other : CaseRun) : Bool :=
  run.misses other.first other.last ||
    ((run.first == run.last || run.step % other.step == 0) &&
      (run.lower run.first - other.first) % other.step != 0)

theorem covers_iff : run.covers code = true ↔
    run.first ≤ code ∧ code ≤ run.last ∧ run.step ∣ code - run.first := by
  simp [covers, and_assoc, Nat.dvd_iff_mod_eq_zero]

theorem misses_iff : run.misses low high = true ↔ run.lower run.last < low ∨ high < run.lower run.first := by
  simp only [misses, Bool.or_eq_true, Nat.blt_eq]

theorem lower_mono {a b : Nat} (h : a ≤ b) : run.lower a ≤ run.lower b := by
  unfold lower
  omega

theorem outside_of_misses (h : run.covers code = true) (hm : run.misses low high = true) :
    run.lower code < low ∨ high < run.lower code := by
  obtain ⟨hfirst, hlast, -⟩ := covers_iff.1 h
  have hbelow : run.lower run.first ≤ run.lower code := lower_mono hfirst
  have habove : run.lower code ≤ run.lower run.last := lower_mono hlast
  rcases misses_iff.1 hm with hm | hm <;> omega

theorem not_covers_of_avoids (h : run.covers code = true) (ha : run.avoids other = true) :
    other.covers (run.lower code) = false := by
  rw [← Bool.not_eq_true]
  intro hcovers
  obtain ⟨hfirst, hlast, hstep⟩ := covers_iff.1 h
  obtain ⟨hfirst', hlast', hstep'⟩ := covers_iff.1 hcovers
  rw [avoids, Bool.or_eq_true, Bool.and_eq_true, Bool.or_eq_true, beq_iff_eq, beq_iff_eq, bne_iff_ne,
    ← Nat.dvd_iff_mod_eq_zero, Ne, ← Nat.dvd_iff_mod_eq_zero] at ha
  rcases ha with hmisses | ⟨hsteps, hout⟩
  · rcases outside_of_misses h hmisses with hlt | hgt <;> omega
  · -- the capitals of the run, and with them their lower-case forms, are whole steps of the other apart
    have hwhole : other.step ∣ code - run.first := by
      rcases hsteps with hone | hmultiple
      · rw [Nat.le_antisymm (hone ▸ hlast) hfirst, Nat.sub_self]
        exact Nat.dvd_zero _
      · exact Nat.dvd_trans hmultiple hstep
    have hapart : run.lower run.first - other.first ≠ 0 := fun hzero => hout (hzero ▸ Nat.dvd_zero _)
    have hsum : run.lower code - other.first =
        (run.lower run.first - other.first) + (code - run.first) := by
      unfold lower at hapart ⊢
      omega
    rw [hsum] at hstep'
    exact hout ((Nat.dvd_add_left hwhole).1 hstep')

end CaseRun

/-! ### The table of capitals -/

/-- No run of the table leads to a capital. -/
theorem caseRuns_avoid : (caseRuns.all fun run => caseRuns.all run.avoids) = true := by
  decide +kernel

/-- No run of the table leads to white space, nor to the capital that is not in it. -/
theorem caseRuns_miss : (caseRuns.all fun run => run.misses 0x130 0x130 &&
    blank.ranges.all fun range => run.misses range.1 range.2) = true := by
  decide +kernel

theorem lowerCode_cases (code : Nat) : lowerCode code = code ∨
    ∃ run ∈ caseRuns, run.covers code = true ∧ lowerCode code = run.lower code := by
  unfold lowerCode
  cases hfind : caseRuns.find? (·.covers code) with
  | none => exact Or.inl rfl
  | some run =>
    have hcovers := List.find?_some hfind
    exact Or.inr ⟨run, List.mem_of_find?_eq_some hfind, hcovers, rfl⟩

/-- A lower-case form is its own lower-case form. -/
theorem lowerCode_lowerCode (code : Nat) : lowerCode (lowerCode code) = lowerCode code := by
  rcases lowerCode_cases code with hsame | ⟨run, hrun, hcovers, hlower⟩
  · rw [hsame, hsame]
  · have hnone : caseRuns.find? (·.covers (run.lower code)) = none := by
      rw [List.find?_eq_none]
      intro other hother
      have havoids := List.all_eq_true.1 (List.all_eq_true.1 caseRuns_avoid run hrun) other hother
      simp [CaseRun.not_covers_of_avoids hcovers havoids]
    rw [hlower, lowerCode, hnone]

theorem lowerCode_ne_sigma (code : Nat) : lowerCode code ≠ 0x3a3 := by
  intro h
  have hagain := lowerCode_lowerCode code
  rw [h] at hagain
  exact absurd hagain (by decide +kernel)

theorem lowerCode_ne_dotted {code : Nat} (h : code ≠ 0x130) : lowerCode code ≠ 0x130 := by
  rcases lowerCode_cases code with hsame | ⟨run, hrun, hcovers, hlower⟩
  · rwa [hsame]
  · have hmisses := List.all_eq_true.1 caseRuns_miss run hrun
    rw [Bool.and_eq_true] at hmisses
    rw [hlower]
    rcases CaseRun.outside_of_misses hcovers hmisses.1 with hlt | hgt <;> omega

theorem exists_range_of_within {code : Nat} : ∀ {ranges : List (Nat × Nat)},
    CodePoints.within code ranges = true → ∃ range ∈ ranges, range.1 ≤ code ∧ code ≤ range.2
  | (low, high) :: rest, h => by
    rw [CodePoints.within] at h
    split at h
    · cases h
    · next hlow =>
      rw [Bool.or_eq_true, decide_eq_true_iff] at h
      rcases h with hhigh | hrest
      · exact ⟨(low, high), List.mem_cons_self, Nat.le_of_not_lt hlow, hhigh⟩
      · obtain ⟨range, hmem, hin⟩ := exists_range_of_within hrest
        exact ⟨range, List.mem_cons_of_mem _ hmem, hin⟩

/-- The lower-case form of a character that is not white space is not white space either. -/
theorem within_lowerCode {code : Nat} (h : CodePoints.within code blank.ranges = false) :
    CodePoints.within (lowerCode code) blank.ranges = false := by
  rcases lowerCode_cases code with hsame | ⟨run, hrun, hcovers, hlower⟩
  · rwa [hsame]
  · rw [← Bool.not_eq_true, hlower]
    intro hwithin
    obtain ⟨range, hrange, hlow, hhigh⟩ := exists_range_of_within hwithin
    have hmisses := List.all_eq_true.1 caseRuns_miss run hrun
    rw [Bool.and_eq_true, List.all_eq_true] at hmisses
    rcases CaseRun.outside_of_misses hcovers (hmisses.2 range hrange) with hlt | hgt <;> omega

/-! ### Characters -/

/-- The character is its own lower-case form, wherever it stands in a word. -/
def IsLower (c : Char) : Prop := c ≠ '\u03a3' ∧ lowerChar c = [c]

instance (c : Char) : Decidable (IsLower c) := inferInstanceAs (Decidable (_ ∧ _))

theorem toNat_ofNat_or (code : Nat) : (Char.ofNat code).toNat = code ∨ Char.ofNat code = '\u0000' := by
  by_cases hvalid : code.isValidChar
  · refine Or.inl ?_
    rw [Char.ofNat, dif_pos hvalid]
    rfl
  · refine Or.inr ?_
    rw [Char.ofNat, dif_neg hvalid]
    rfl

theorem lowerChar_eq {c : Char} (h : c ≠ '\u0130') : lowerChar c = [Char.ofNat (lowerCode c.toNat)] :=
  if_neg h

theorem isLower_ofNat_lowerCode {c : Char} (h : c ≠ '\u0130') :
    IsLower (Char.ofNat (lowerCode c.toNat)) := by
  rcases toNat_ofNat_or (lowerCode c.toNat) with hcode | hnull
  · have hc : c.toNat ≠ 0x130 := fun hdotted => h (Char.toNat_inj.1 hdotted)
    refine ⟨fun hsigma => lowerCode_ne_sigma c.toNat ?_, ?_⟩
    · rw [← hcode, hsigma]; rfl
    · rw [lowerChar_eq, hcode, lowerCode_lowerCode]
      intro hdotted
      rw [hdotted] at hcode
      exact lowerCode_ne_dotted hc hcode.symm
  · rw [hnull]
    decide +kernel

theorem isLower_lowerChar {c d : Char} (hd : d ∈ lowerChar c) : IsLower d := by
  by_cases hdotted : c = '\u0130'
  · subst hdotted
    have hd : d = 'i' ∨ d = '\u0307' := by simpa [lowerChar] using hd
    rcases hd with rfl | rfl <;> decide +kernel
  · rw [lowerChar_eq hdotted, List.mem_singleton] at hd
    exact hd ▸ isLower_ofNat_lowerCode hdotted

theorem isLower_lowerSigma (before after : List Char) : IsLower (lowerSigma before after) := by
  unfold lowerSigma
  split <;> decide +kernel

theorem solid_lowerChar {c d : Char} (hc : blank.contains c = false) (hd : d ∈ lowerChar c) :
    blank.contains d = false := by
  by_cases hdotted : c = '\u0130'
  · subst hdotted
    have hd : d = 'i' ∨ d = '\u0307' := by simpa [lowerChar] using hd
    rcases hd with rfl | rfl <;> decide
  · rw [lowerChar_eq hdotted, List.mem_singleton] at hd
    rcases toNat_ofNat_or (lowerCode c.toNat) with hcode | hnull
    · rw [hd, CodePoints.contains, hcode]
      exact within_lowerCode hc
    · rw [hd, hnull]
      decide

theorem solid_lowerSigma (before after : List Char) : blank.contains (lowerSigma before after) = false := by
  unfold lowerSigma
  split <;> decide

/-! ### Words -/

/-- What is true of the lower-case forms of all characters of a word is true of the lower-cased word. -/
theorem forall_mem_lowerFrom {P : Char → Prop} (hsigma : ∀ before after, P (lowerSigma before after)) :
    ∀ {word : List Char} (before : List Char), (∀ c ∈ word, ∀ d ∈ lowerChar c, P d) →
      ∀ d ∈ lowerFrom before word, P d
  | [], _, _ => by simp [lowerFrom]
  | c :: word, before, h => by
    obtain ⟨hc, hword⟩ := List.forall_mem_cons.1 h
    rw [lowerFrom, List.forall_mem_append]
    refine ⟨?_, forall_mem_lowerFrom hsigma (c :: before) hword⟩
    split
    · simpa using hsigma before word
    · exact hc

theorem lowerFrom_of_isLower : ∀ {word : List Char} (before : List Char), (∀ c ∈ word, IsLower c) →
    lowerFrom before word = word
  | [], _, _ => rfl
  | c :: word, before, h => by
    obtain ⟨⟨hsigma, hc⟩, hword⟩ := List.forall_mem_cons.1 h
    rw [lowerFrom, if_neg hsigma, hc, lowerFrom_of_isLower (c :: before) hword]
    rfl

/-- To lower-case a word again changes nothing. -/
theorem lowerWord_lowerWord (word : List Char) : lowerWord (lowerWord word) = lowerWord word :=
  lowerFrom_of_isLower [] (forall_mem_lowerFrom isLower_lowerSigma [] fun _ _ _ => isLower_lowerChar)

theorem lowerWord_ne_nil {word : List Char} (h : word ≠ []) : lowerWord word ≠ [] := by
  obtain ⟨c, word, rfl⟩ := List.exists_cons_of_ne_nil h
  rw [lowerWord, lowerFrom, lowerChar]
  split
  · simp
  · split <;> simp

/-- A lower-cased word is a word. -/
theorem IsWord.lowerWord {word : List Char} (h : IsWord word) : IsWord (lowerWord word) where
  nonempty := lowerWord_ne_nil h.nonempty
  solid := forall_mem_lowerFrom solid_lowerSigma [] fun c hc _ => solid_lowerChar (h.solid c hc)

end WikiDoc.Text
