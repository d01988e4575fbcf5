import WikiDoc.Proofs.Text.LowerCase
import WikiDoc.Validation.Options

/-!
The form in which identifiers are compared without regard to case is canonical.

Words are put behind one another, with a space in front of each but the first. Whether a word is the first
one is read off the text so far, which is right since no word is empty: the text so far is always the
join of the words so far (`addWord_join`, `foldl_addWord`). So the form is the lower-cased words joined
by single spaces (`normalize_eq`), from which the words are found again. Two identifiers have the same
form exactly when they have the same lower-cased words, and white space counts for nothing else.
-/

namespace WikiDoc

open Text

/-- The words of an identifier in lower case. -/
def lowerWords (identifier : String) : List (List Char) := (words identifier.toList).map lowerWord

theorem isWord_of_mem_lowerWords {identifier : String} :
    ∀ word ∈ lowerWords identifier, IsWord word := by
  intro word hword
  obtain ⟨original, horiginal, rfl⟩ := List.mem_map.1 hword
  exact (isWord_of_mem_words horiginal).lowerWord

namespace IdentifierMatching

theorem intercalate_concat {α : Type} (sep : List α) (last : List α) : ∀ {items : List (List α)},
    items ≠ [] → sep.intercalate (items ++ [last]) = sep.intercalate items ++ (sep ++ last)
  | [item], _ => by simp [List.intercalate_cons_cons]
  | item :: next :: items, _ => by
    have ih := intercalate_concat sep last (List.cons_ne_nil next items)
    simp only [List.cons_append] at ih
    simp only [List.cons_append, List.intercalate_cons_cons, ih, List.append_assoc]

/-- A word behind the join of some words gives the join of all of them. -/
theorem addWord_join {done : List (List Char)} (h : ∀ w ∈ done, IsWord w) (word : List Char) :
    addWord ([' '].intercalate done) word = [' '].intercalate (done ++ [lowerWord word]) := by
  rw [addWord]
  cases done with
  | nil => simp
  | cons w done =>
    have hne : [' '].intercalate (w :: done) ≠ [] := intercalate_ne_nil (h w List.mem_cons_self) done
    rw [if_neg (by simpa using hne), intercalate_concat _ _ (List.cons_ne_nil w done),
      List.append_assoc]

/-- Words behind the join of some words give the join of all of them. -/
theorem foldl_addWord : ∀ {ws done : List (List Char)}, (∀ w ∈ done, IsWord w) → (∀ w ∈ ws, IsWord w) →
    ws.foldl addWord ([' '].intercalate done) = [' '].intercalate (done ++ ws.map lowerWord)
  | [], done, _, _ => by rw [List.foldl_nil, List.map_nil, List.append_nil]
  | w :: ws, done, hdone, h => by
    obtain ⟨hw, hws⟩ := List.forall_mem_cons.1 h
    have hmore : ∀ v ∈ done ++ [lowerWord w], IsWord v :=
      List.forall_mem_append.2 ⟨hdone, List.forall_mem_singleton.2 hw.lowerWord⟩
    rw [List.foldl_cons, addWord_join hdone, foldl_addWord hmore hws, List.append_assoc, List.map_cons]
    rfl

/-- The form of an identifier is its lower-cased words, joined by single spaces. -/
theorem normalize_eq (identifier : String) : caseInsensitive.normalize identifier =
    String.ofList ([' '].intercalate (lowerWords identifier)) :=
  congrArg String.ofList (foldl_addWord (List.forall_mem_nil _) fun _ => isWord_of_mem_words)

theorem toList_normalize (identifier : String) : (caseInsensitive.normalize identifier).toList =
    [' '].intercalate (lowerWords identifier) := by
  rw [normalize_eq, String.toList_ofList]

/-- The words of the form are the lower-cased words of the identifier. -/
theorem words_normalize (identifier : String) :
    words (caseInsensitive.normalize identifier).toList = lowerWords identifier := by
  rw [toList_normalize, words_intercalate isWord_of_mem_lowerWords]

theorem lowerWords_normalize (identifier : String) :
    lowerWords (caseInsensitive.normalize identifier) = lowerWords identifier := by
  rw [lowerWords, words_normalize, lowerWords, List.map_map]
  exact List.map_congr_left fun word _ => lowerWord_lowerWord word

theorem normalize_eq_iff {s t : String} : caseInsensitive.normalize s = caseInsensitive.normalize t ↔
    lowerWords s = lowerWords t := by
  constructor
  · intro h
    rw [← words_normalize s, h, words_normalize t]
  · intro h
    rw [normalize_eq, normalize_eq, h]

/-- Identifiers with the same words have the same form, whatever the white space around the words. -/
theorem normalize_congr {s t : String} (h : words s.toList = words t.toList) :
    caseInsensitive.normalize s = caseInsensitive.normalize t := by
  rw [normalize_eq_iff, lowerWords, lowerWords, h]

end IdentifierMatching

/-- The form of an identifier is its lower-cased words joined by single spaces, without white space
at the ends or twice in a row. Its words are these words, so to take the form of a form changes nothing, and
two identifiers have the same form exactly when they have the same lower-cased words. The words of an
identifier are those that it is made of, and no others; white space at its ends does not change the form,
nor does the kind and length of white space between two parts. -/
theorem normalize_canonical (s t : String) :
    (∀ ws, MadeOf s.toList ws ↔ words s.toList = ws) ∧
      let form := IdentifierMatching.caseInsensitive.normalize
      form s = String.ofList ([' '].intercalate (lowerWords s)) ∧
      Tight (form s).toList ∧
      MadeOf (form s).toList (lowerWords s) ∧
      form (form s) = form s ∧
      (form s = form t ↔ lowerWords s = lowerWords t) ∧
      (∀ lead trail : String, IsGap lead.toList → IsGap trail.toList → form (lead ++ s ++ trail) = form s) ∧
      ∀ gap gap' : String, IsGap gap.toList → IsGap gap'.toList → gap ≠ "" → gap' ≠ "" →
        lowerWords (s ++ gap ++ t) = lowerWords s ++ lowerWords t ∧
          form (s ++ gap ++ t) = form (s ++ gap' ++ t) := by
  have hapart : ∀ gap : String, IsGap gap.toList → gap ≠ "" →
      words (s ++ gap ++ t).toList = words s.toList ++ words t.toList := by
    intro gap hgap hne
    rw [String.toList_append, String.toList_append, List.append_assoc]
    exact words_append_gap hgap (by simpa using hne) s.toList t.toList
  refine ⟨fun ws => madeOf_iff, IdentifierMatching.normalize_eq s, ?_, ?_, ?_,
    IdentifierMatching.normalize_eq_iff, ?_, ?_⟩
  · rw [IdentifierMatching.toList_normalize]
    exact tight_intercalate isWord_of_mem_lowerWords
  · exact madeOf_iff.2 (IdentifierMatching.words_normalize s)
  · exact IdentifierMatching.normalize_eq_iff.2 (IdentifierMatching.lowerWords_normalize s)
  · intro lead trail hlead htrail
    apply IdentifierMatching.normalize_congr
    rw [String.toList_append, String.toList_append, List.append_assoc, words_gap_append hlead,
      words_append_gap_end htrail]
  · intro gap gap' hgap hgap' hne hne'
    refine ⟨?_, IdentifierMatching.normalize_congr ?_⟩
    · rw [lowerWords, hapart gap hgap hne, List.map_append, lowerWords, lowerWords]
    · rw [hapart gap hgap hne, hapart gap' hgap' hne']

/-- A word that grows in lower case and one whose last letter has a form of its own at the end, with white
space around and between them. -/
theorem normalize_canonical_busses :
    let form := IdentifierMatching.caseInsensitive.normalize
    let this := "\u0130s"
    let bus := "BUS\u03a3"
    IsGap " \t".toList ∧ IsGap "\u3000".toList ∧
      form (" \t" ++ this ++ "\u3000") = form this ∧
      lowerWords (this ++ " \t" ++ bus) = lowerWords this ++ lowerWords bus ∧
      form (this ++ " \t" ++ bus) = form (this ++ "\u3000" ++ bus) ∧
      form (this ++ "\u3000" ++ bus) = "i\u0307s bus\u03c2" := by
  intro form this bus
  have htab : IsGap " \t".toList := by decide
  have hwide : IsGap "\u3000".toList := by decide
  obtain ⟨-, -, -, -, -, -, hends, hbetween⟩ := normalize_canonical this bus
  obtain ⟨hwords, hform⟩ := hbetween _ _ htab hwide (by decide) (by decide)
  exact ⟨htab, hwide, hends _ _ htab hwide, hwords, hform, by decide +kernel⟩

end WikiDoc
