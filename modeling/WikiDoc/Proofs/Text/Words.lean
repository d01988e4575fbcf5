import Mathlib.Data.List.Chain
import WikiDoc.Text.Blank

/-!
The words of a text, said without the scan.

A text is made of words when it is these words in their order, with white space between any two of them
and perhaps at its ends (`MadeOf`). The scan finds the words that a text is made of, and there are no
others (`madeOf_iff`). So white space ends words and does nothing else (`words_append_gap`), and words
that are joined by single spaces are found again (`words_intercalate`).
-/

namespace WikiDoc.Text

/-- A word: at least one character, and none that is white space. -/
structure IsWord (word : List Char) : Prop where
  nonempty : word ≠ []
  solid : ∀ c ∈ word, blank.contains c = false

/-- White space of any kind and length, none included. -/
def IsGap (text : List Char) : Prop := ∀ c ∈ text, blank.contains c = true

instance (text : List Char) : Decidable (IsGap text) :=
  decidable_of_iff (text.all blank.contains = true) List.all_eq_true

/-- The text consists of the words in their order, white space between any two of them and perhaps at
the ends. -/
inductive MadeOf : List Char → List (List Char) → Prop
  | gap {gap : List Char} (hgap : IsGap gap) : MadeOf gap []
  /-- What follows a word starts with white space or is empty. -/
  | word {gap word rest : List Char} {later : List (List Char)} (hgap : IsGap gap) (hword : IsWord word)
      (hend : ∀ c ∈ rest.head?, blank.contains c = true) (hrest : MadeOf rest later) :
      MadeOf (gap ++ (word ++ rest)) (word :: later)

/-- No white space at the ends, and never two characters of it in a row. -/
structure Tight (text : List Char) : Prop where
  front : ∀ c ∈ text.head?, blank.contains c = false
  back : ∀ c ∈ text.getLast?, blank.contains c = false
  single : text.IsChain fun a b => blank.contains a = false ∨ blank.contains b = false

theorem isGap_nil : IsGap [] := by simp [IsGap]

theorem isGap_cons {c : Char} {text : List Char} :
    IsGap (c :: text) ↔ blank.contains c = true ∧ IsGap text := List.forall_mem_cons

/-! ### The scan -/

theorem closeWord_nil (later : List (List Char)) : closeWord [] later = later := rfl

theorem closeWord_of_ne_nil {word : List Char} (h : word ≠ []) (later : List (List Char)) :
    closeWord word later = word :: later := by
  rw [closeWord, if_neg (by simpa using h)]

theorem wordsFrom_solid {word : List Char} (h : ∀ c ∈ word, blank.contains c = false)
    (carry rest : List Char) : wordsFrom carry (word ++ rest) = wordsFrom (carry ++ word) rest := by
  induction word generalizing carry with
  | nil => simp
  | cons c word ih =>
    obtain ⟨hc, hword⟩ := List.forall_mem_cons.1 h
    rw [List.cons_append, wordsFrom, if_neg (by simp [hc]), ih hword, List.append_assoc]
    rfl

/-- A character of white space ends the word before it; the scan starts anew behind it. -/
theorem wordsFrom_append_blank {c : Char} (hc : blank.contains c = true) (rest : List Char) :
    ∀ carry text : List Char, wordsFrom carry (text ++ c :: rest) = wordsFrom carry text ++ words rest
  | carry, [] => by
    rw [List.nil_append, wordsFrom.eq_2, if_pos hc, wordsFrom, closeWord, closeWord]
    split <;> rfl
  | carry, d :: text => by
    rw [List.cons_append, wordsFrom, wordsFrom]
    split
    · rw [wordsFrom_append_blank hc rest [] text, closeWord, closeWord]
      split <;> rfl
    · exact wordsFrom_append_blank hc rest (carry ++ [d]) text

theorem words_gap_append {gap : List Char} (h : IsGap gap) (text : List Char) :
    words (gap ++ text) = words text := by
  induction gap with
  | nil => rfl
  | cons c gap ih =>
    obtain ⟨hc, hgap⟩ := isGap_cons.1 h
    rw [← ih hgap]
    exact wordsFrom_append_blank hc (gap ++ text) [] []

theorem words_gap {gap : List Char} (h : IsGap gap) : words gap = [] := by
  rw [← List.append_nil gap, words_gap_append h]
  rfl

theorem words_append_gap_end {gap : List Char} (h : IsGap gap) (text : List Char) :
    words (text ++ gap) = words text := by
  cases gap with
  | nil => rw [List.append_nil]
  | cons c gap =>
    obtain ⟨hc, hgap⟩ := isGap_cons.1 h
    rw [words, wordsFrom_append_blank hc, words_gap hgap, List.append_nil, words]

/-- White space between two texts keeps their words apart. -/
theorem words_append_gap {gap : List Char} (h : IsGap gap) (hne : gap ≠ []) (a b : List Char) :
    words (a ++ (gap ++ b)) = words a ++ words b := by
  obtain ⟨c, gap, rfl⟩ := List.exists_cons_of_ne_nil hne
  obtain ⟨hc, hgap⟩ := isGap_cons.1 h
  rw [List.cons_append, words, wordsFrom_append_blank hc, words_gap_append hgap]
  rfl

/-- A word in front of white space, or of nothing, is the first word. -/
theorem words_word_append {word rest : List Char} (hword : IsWord word)
    (hend : ∀ c ∈ rest.head?, blank.contains c = true) : words (word ++ rest) = word :: words rest := by
  rw [words, wordsFrom_solid hword.solid, List.nil_append]
  cases rest with
  | nil => rw [wordsFrom, closeWord_of_ne_nil hword.nonempty]; rfl
  | cons c rest =>
    have hc : blank.contains c = true := hend c rfl
    rw [wordsFrom, if_pos hc, closeWord_of_ne_nil hword.nonempty, words, wordsFrom, if_pos hc,
      closeWord_nil]

/-! ### The words that a text is made of -/

theorem MadeOf.isWord {text : List Char} {ws : List (List Char)} (h : MadeOf text ws) :
    ∀ w ∈ ws, IsWord w := by
  induction h with
  | gap _ => simp
  | word _ hword _ _ ih => exact List.forall_mem_cons.2 ⟨hword, ih⟩

theorem MadeOf.cons_blank {c : Char} {text : List Char} {ws : List (List Char)}
    (hc : blank.contains c = true) (h : MadeOf text ws) : MadeOf (c :: text) ws := by
  cases h with
  | gap hgap => exact .gap (isGap_cons.2 ⟨hc, hgap⟩)
  | word hgap hword hend hrest => exact .word (isGap_cons.2 ⟨hc, hgap⟩) hword hend hrest

/-- Closing the open word, empty or not, in front of what starts with white space or is empty. -/
theorem MadeOf.closeWord {carry rest : List Char} {later : List (List Char)}
    (hcarry : ∀ c ∈ carry, blank.contains c = false)
    (hend : ∀ c ∈ rest.head?, blank.contains c = true) (hrest : MadeOf rest later) :
    MadeOf (carry ++ rest) (closeWord carry later) := by
  by_cases hne : carry = []
  · rw [hne, List.nil_append, closeWord_nil]
    exact hrest
  · rw [closeWord_of_ne_nil hne]
    exact .word isGap_nil ⟨hne, hcarry⟩ hend hrest

/-- The scan goes on to find the words that the open word and the rest of the text are made of. -/
theorem madeOf_wordsFrom (text carry : List Char) (hcarry : ∀ c ∈ carry, blank.contains c = false) :
    MadeOf (carry ++ text) (wordsFrom carry text) := by
  induction text generalizing carry with
  | nil => exact .closeWord hcarry (by simp) (.gap isGap_nil)
  | cons c text ih =>
    rw [wordsFrom]
    split
    · next hc => exact .closeWord hcarry (by simpa using hc) ((ih [] (by simp)).cons_blank hc)
    · next hc =>
      have hsolid : ∀ d ∈ carry ++ [c], blank.contains d = false := by
        intro d hd
        rcases List.mem_append.1 hd with hd | hd
        · exact hcarry d hd
        · rw [List.mem_singleton.1 hd]
          simpa using hc
      simpa using ih (carry ++ [c]) hsolid

/-- A text is made of its words, and of no others. -/
theorem madeOf_iff {text : List Char} {ws : List (List Char)} : MadeOf text ws ↔ words text = ws := by
  constructor
  · intro h
    induction h with
    | gap hgap => exact words_gap hgap
    | word hgap hword hend _ ih => rw [words_gap_append hgap, words_word_append hword hend, ih]
  · rintro rfl
    exact madeOf_wordsFrom text [] (by simp)

theorem isWord_of_mem_words {text word : List Char} (h : word ∈ words text) : IsWord word :=
  (madeOf_iff.2 rfl).isWord word h

/-! ### Words joined by spaces -/

theorem blank_space : blank.contains ' ' = true := by decide

theorem IsWord.tight {word : List Char} (h : IsWord word) : Tight word where
  front c hc := h.solid c (List.mem_of_mem_head? hc)
  back c hc := h.solid c (List.mem_of_mem_getLast? hc)
  single := (List.pairwise_of_forall_mem_list fun c hc _ _ => Or.inl (h.solid c hc)).isChain

/-- A space between two tight texts leaves them tight. -/
theorem Tight.append_space {a b : List Char} (ha : Tight a) (hb : Tight b) (hane : a ≠ [])
    (hbne : b ≠ []) : Tight (a ++ ' ' :: b) where
  front := by rw [List.head?_append_of_ne_nil a hane]; exact ha.front
  back := by
    rw [List.getLast?_append_of_ne_nil a (List.cons_ne_nil _ _), List.getLast?_cons_of_ne_nil hbne]
    exact hb.back
  single := by
    refine List.isChain_append.2 ⟨ha.single, List.isChain_cons.2 ⟨?_, hb.single⟩, ?_⟩
    · exact fun c hc => Or.inr (hb.front c hc)
    · exact fun c hc _ _ => Or.inl (ha.back c hc)

theorem intercalate_ne_nil {w : List Char} (hw : IsWord w) (ws : List (List Char)) :
    [' '].intercalate (w :: ws) ≠ [] := by
  cases ws with
  | nil => rw [List.intercalate_singleton]; exact hw.nonempty
  | cons w' ws => simp [List.intercalate_cons_cons, hw.nonempty]

theorem tight_intercalate : ∀ {ws : List (List Char)}, (∀ w ∈ ws, IsWord w) →
    Tight ([' '].intercalate ws)
  | [], _ => ⟨by simp, by simp, by simp⟩
  | [w], h => by
    rw [List.intercalate_singleton]
    exact (h w List.mem_cons_self).tight
  | w :: w' :: ws, h => by
    obtain ⟨hw, hrest⟩ := List.forall_mem_cons.1 h
    rw [List.intercalate_cons_cons, List.append_assoc]
    exact hw.tight.append_space (tight_intercalate hrest) hw.nonempty
      (intercalate_ne_nil (hrest w' List.mem_cons_self) ws)

/-- Words that are joined by single spaces are the words of the joined text. -/
theorem words_intercalate : ∀ {ws : List (List Char)}, (∀ w ∈ ws, IsWord w) →
    words ([' '].intercalate ws) = ws
  | [], _ => rfl
  | [w], h => by
    have hword : words (w ++ []) = w :: words [] :=
      words_word_append (h w List.mem_cons_self) (by simp)
    rw [List.append_nil] at hword
    rw [List.intercalate_singleton, hword]
    rfl
  | w :: w' :: ws, h => by
    obtain ⟨hw, hrest⟩ := List.forall_mem_cons.1 h
    have hspace : IsGap [' '] := by simp [IsGap, blank_space]
    rw [List.intercalate_cons_cons, List.append_assoc, words_word_append hw (by simp [blank_space]),
      words_gap_append hspace, words_intercalate hrest]

end WikiDoc.Text
