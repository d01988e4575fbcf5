import Mathlib.Data.List.Nodup
import Mathlib.Data.List.Perm.Subperm
import WikiDoc.Attribute.Rule

/-!
Attributes in another order.

Maps that are the same have the same entries in some order (`OrderedMap.same_iff_perm`), which is to say that
they answer every lookup alike (`OrderedMap.same_iff_get?`). The rules of a kind look attributes up, which
leaves the order no way to matter; only the attributes that no rule declares are listed as they stand in the
map (`attributeProblems_of_same`).
-/

namespace WikiDoc

namespace OrderedMap

variable {κ α β : Type} [DecidableEq κ] [DecidableEq α] [DecidableEq β] {a b : OrderedMap κ α}

theorem same_iff_perm : a.same b = true ↔ a.entries.Perm b.entries := by
  rw [same, Bool.and_eq_true, beq_iff_eq, List.all_eq_true]
  simp only [decide_eq_true_iff, get?_eq_some_iff]
  constructor
  · rintro ⟨hsize, hsub⟩
    have hnodup : a.entries.Nodup := List.Nodup.of_map _ a.nodup
    exact (List.subperm_of_subset hnodup hsub).perm_of_length_le (Nat.le_of_eq hsize.symm)
  · intro hperm
    exact ⟨hperm.length_eq, fun entry hentry => hperm.subset hentry⟩

@[simp]
theorem same_refl (m : OrderedMap κ α) : m.same m = true := same_iff_perm.2 (.refl _)

/-- Maps are the same exactly if they answer every lookup alike. -/
theorem same_iff_get? : a.same b = true ↔ ∀ key, a.get? key = b.get? key := by
  rw [same_iff_perm, List.perm_ext_iff_of_nodup (.of_map _ a.nodup) (.of_map _ b.nodup)]
  constructor
  · intro h key
    apply Option.ext
    intro value
    rw [get?_eq_some_iff, get?_eq_some_iff, h]
  · intro h entry
    rw [← get?_eq_some_iff, ← get?_eq_some_iff, h]

theorem get?_of_same (h : a.same b = true) (key : κ) : a.get? key = b.get? key :=
  same_iff_get?.1 h key

theorem same_mapValues (h : a.same b = true) (f : α → β) :
    (a.mapValues f).same (b.mapValues f) = true :=
  same_iff_perm.2 ((same_iff_perm.1 h).map _)

end OrderedMap

variable {a b : Attributes}

theorem AttributeRule.problem?_of_same (h : a.same b = true) (rule : AttributeRule) :
    rule.problem? a = rule.problem? b := by
  rw [problem?, problem?, OrderedMap.get?_of_same h]

theorem undeclaredNames_perm (h : a.same b = true) (rules : List AttributeRule) :
    (undeclaredNames rules a).Perm (undeclaredNames rules b) :=
  ((OrderedMap.same_iff_perm.1 h).map Prod.fst).filter _

/-- Attributes that are the same have the same problems, but for the order of those that no rule
declares, which come last. -/
theorem attributeProblems_of_same (h : a.same b = true) (rules : List AttributeRule) (isOpen : Bool) :
    ∃ (found : List AttributeProblem) (names names' : List String), names.Perm names' ∧
      attributeProblems rules isOpen a = found ++ names.map .undeclared ∧
      attributeProblems rules isOpen b = found ++ names'.map .undeclared := by
  have hrules : rules.filterMap (·.problem? a) = rules.filterMap (·.problem? b) := by
    simp only [AttributeRule.problem?_of_same h]
  cases isOpen with
  | true =>
    refine ⟨rules.filterMap (·.problem? b), [], [], .nil, ?_, rfl⟩
    simp only [attributeProblems, hrules, if_pos, List.map_nil]
  | false =>
    refine ⟨rules.filterMap (·.problem? b), _, _, undeclaredNames_perm h rules, ?_, ?_⟩
    · simp only [attributeProblems, hrules, if_neg Bool.false_ne_true]
    · simp only [attributeProblems, if_neg Bool.false_ne_true]

/-- Attributes that are the same are accepted alike. -/
theorem attributeProblems_eq_nil_of_same (h : a.same b = true) (rules : List AttributeRule)
    (isOpen : Bool) : attributeProblems rules isOpen a = [] ↔ attributeProblems rules isOpen b = [] := by
  obtain ⟨found, names, names', hperm, ha, hb⟩ := attributeProblems_of_same h rules isOpen
  rw [ha, hb, List.append_eq_nil_iff, List.append_eq_nil_iff, List.map_eq_nil_iff, List.map_eq_nil_iff]
  refine and_congr_right fun _ => ?_
  rw [← List.length_eq_zero_iff, ← List.length_eq_zero_iff, hperm.length_eq]

end WikiDoc
