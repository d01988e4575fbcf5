import WikiDoc.Kind.Definition

/-!
Definitions that are the same, as far as a validation can tell.

A registry takes two definitions for the same without looking at the matchers of their patterns, which
it cannot compare, nor at their constructors. If patterns that are described alike also match alike
(`MatchersAgree`), then definitions that it takes for the same ask for the same shape and the same
content, and find the same problems with every map of attributes (`KindDef.Alike.of_sameAs`).

To be taken for the same is to be equal once matchers and constructors are forgotten (`outline`), so it is
an equivalence, for constraints, rules and definitions alike.
-/

namespace WikiDoc

/-- A pattern: its description and what it matches. -/
abbrev Pattern := String × (String → Bool)

/-- Patterns of the one list match what equally described ones of the other list match. -/
def MatchersAgree (ps qs : List Pattern) : Prop := ∀ p ∈ ps, ∀ q ∈ qs, p.1 = q.1 → p.2 = q.2

theorem MatchersAgree.mono {ps qs ps' qs' : List Pattern} (h : MatchersAgree ps qs) (hp : ps' ⊆ ps)
    (hq : qs' ⊆ qs) : MatchersAgree ps' qs' :=
  fun p hps q hqs => h p (hp hps) q (hq hqs)

namespace Constraint

/-- The patterns in a constraint. -/
def patterns : Constraint → List Pattern
  | .pattern description accepts => [(description, accepts)]
  | .listOf inner => inner.patterns
  | .any | .text | .url | .bool | .integer _ _ | .oneOf _ => []

@[simp]
theorem sameAs_refl (a : Constraint) : a.sameAs a = true := by
  induction a with
  | listOf inner ih => rw [sameAs, ih]
  | _ => simp [sameAs]

/-- Constraints that are built alike reject the same values for the same reasons. -/
theorem rejection?_eq_of_sameAs {a b : Constraint} (h : a.sameAs b = true)
    (hm : MatchersAgree a.patterns b.patterns) (v : AttrValue) : a.rejection? v = b.rejection? v := by
  induction a generalizing b v with
  | pattern description accepts =>
    cases b with
    | pattern description' accepts' =>
      have hd : description = description' := by simpa [sameAs] using h
      have ha : accepts = accepts' :=
        hm (description, accepts) List.mem_cons_self (description', accepts') List.mem_cons_self hd
      rw [hd, ha]
    | _ => simp [sameAs] at h
  | listOf inner ih =>
    cases b with
    | listOf inner' =>
      rw [sameAs] at h
      have hinner : inner.rejection? = inner'.rejection? := funext fun w => ih h hm w
      rw [rejection?, rejection?, hinner]
    | _ => simp [sameAs] at h
  | _ => cases b <;> simp_all [sameAs]

end Constraint

namespace AttributeRule

@[simp]
theorem sameAs_refl (a : AttributeRule) : a.sameAs a = true := by simp [sameAs]

/-- Rules that say the same have the same problem with a map of attributes. -/
theorem problem?_eq_of_sameAs {a b : AttributeRule} (h : a.sameAs b = true)
    (hm : MatchersAgree a.constraint.patterns b.constraint.patterns) (attrs : Attributes) :
    a.problem? attrs = b.problem? attrs := by
  simp only [sameAs, Bool.and_eq_true, beq_iff_eq] at h
  obtain ⟨⟨hname, hrequired⟩, hconstraint⟩ := h
  rw [problem?, problem?, hname, hrequired]
  cases attrs.get? b.name with
  | none => rfl
  | some value => simp only [Constraint.rejection?_eq_of_sameAs hconstraint hm value]

end AttributeRule

namespace KindDef

/-- The patterns in the rules of a definition. -/
def patterns (d : KindDef) : List Pattern := d.rules.flatMap fun rule => rule.constraint.patterns

@[simp]
theorem sameRules_refl : ∀ rules : List AttributeRule, sameRules rules rules = true
  | [] => rfl
  | rule :: rules => by rw [sameRules, AttributeRule.sameAs_refl, sameRules_refl rules]; rfl

@[simp]
theorem sameAs_refl (d : KindDef) : d.sameAs d = true := by simp [sameAs]

theorem sameAs_iff {a b : KindDef} : a.sameAs b = true ↔ a.kind = b.kind ∧ a.shape = b.shape ∧
    a.content = b.content ∧ a.isOpen = b.isOpen ∧ a.memberOf = b.memberOf ∧
    a.build.isSome = b.build.isSome ∧ sameRules a.rules b.rules = true := by
  simp only [sameAs, Bool.and_eq_true, beq_iff_eq, decide_eq_true_iff, and_assoc]

/-- Lists of rules that say the same name the same attributes. -/
theorem map_name_of_sameRules : ∀ {as bs : List AttributeRule}, sameRules as bs = true →
    as.map AttributeRule.name = bs.map AttributeRule.name
  | [], [], _ => rfl
  | a :: as, b :: bs, h => by
    simp only [sameRules, AttributeRule.sameAs, Bool.and_eq_true, beq_iff_eq] at h
    rw [List.map_cons, List.map_cons, h.1.1.1, map_name_of_sameRules h.2]
  | [], _ :: _, h => by cases h
  | _ :: _, [], h => by cases h

/-- Lists of rules that say the same have the same problems with a map of attributes. -/
theorem filterMap_problem?_of_sameRules (attrs : Attributes) : ∀ {as bs : List AttributeRule},
    sameRules as bs = true →
    MatchersAgree (as.flatMap (·.constraint.patterns)) (bs.flatMap (·.constraint.patterns)) →
    as.filterMap (·.problem? attrs) = bs.filterMap (·.problem? attrs)
  | [], [], _, _ => rfl
  | a :: as, b :: bs, h, hm => by
    rw [sameRules, Bool.and_eq_true] at h
    rw [List.flatMap_cons, List.flatMap_cons] at hm
    have hhead := AttributeRule.problem?_eq_of_sameAs h.1
      (hm.mono (List.subset_append_left _ _) (List.subset_append_left _ _)) attrs
    have htail := filterMap_problem?_of_sameRules attrs h.2
      (hm.mono (List.subset_append_right _ _) (List.subset_append_right _ _))
    rw [List.filterMap_cons, List.filterMap_cons, hhead, htail]
  | [], _ :: _, h, _ => by cases h
  | _ :: _, [], h, _ => by cases h

/-- Lists of rules that say the same leave the same attributes undeclared. -/
theorem undeclaredNames_of_sameRules {as bs : List AttributeRule} (h : sameRules as bs = true)
    (attrs : Attributes) : undeclaredNames as attrs = undeclaredNames bs attrs := by
  have hany : ∀ (rules : List AttributeRule) (name : String),
      (rules.any fun rule => rule.name == name) = (rules.map AttributeRule.name).any (· == name) := by
    intro rules name
    rw [List.any_map]
    rfl
  simp only [undeclaredNames, hany, map_name_of_sameRules h]

/-- Definitions that a validation cannot tell apart. -/
structure Alike (a b : KindDef) : Prop where
  shape : a.shape = b.shape
  content : a.content = b.content
  problems : ∀ attrs, a.problems attrs = b.problems attrs

theorem Alike.refl (d : KindDef) : d.Alike d := ⟨rfl, rfl, fun _ => rfl⟩

/-- Definitions that are taken for the same are alike if their patterns match alike. -/
theorem Alike.of_sameAs {a b : KindDef} (h : a.sameAs b = true)
    (hm : MatchersAgree a.patterns b.patterns) : a.Alike b := by
  obtain ⟨_, hshape, hcontent, hopen, _, _, hrules⟩ := sameAs_iff.1 h
  refine ⟨hshape, hcontent, fun attrs => ?_⟩
  simp only [KindDef.problems, attributeProblems, hopen, filterMap_problem?_of_sameRules attrs hrules hm,
    undeclaredNames_of_sameRules hrules attrs]

end KindDef

/-! ### Sameness is an equivalence -/

namespace Constraint

/-- The constraint with the matchers of its patterns forgotten. -/
def outline : Constraint → Constraint
  | .pattern description _ => .pattern description fun _ => true
  | .listOf inner => .listOf inner.outline
  | constraint => constraint

theorem sameAs_iff_outline {a b : Constraint} : a.sameAs b = true ↔ a.outline = b.outline := by
  induction a generalizing b with
  | pattern description accepts => cases b <;> simp [sameAs, outline]
  | listOf inner ih => cases b <;> simp [sameAs, outline, ih]
  | _ => cases b <;> simp [sameAs, outline]

theorem equivalence_sameAs : Equivalence fun a b : Constraint => a.sameAs b = true := by
  simp only [sameAs_iff_outline]
  exact ⟨fun _ => rfl, Eq.symm, Eq.trans⟩

end Constraint

/-- The rule with the matchers of its patterns forgotten. -/
def AttributeRule.outline (rule : AttributeRule) : AttributeRule :=
  { rule with constraint := rule.constraint.outline }

theorem AttributeRule.sameAs_iff_outline {a b : AttributeRule} :
    a.sameAs b = true ↔ a.outline = b.outline := by
  simp only [sameAs, Bool.and_eq_true, beq_iff_eq, Constraint.sameAs_iff_outline, outline,
    AttributeRule.mk.injEq, and_assoc]

namespace KindDef

theorem sameRules_iff_outline : ∀ {as bs : List AttributeRule},
    sameRules as bs = true ↔ as.map AttributeRule.outline = bs.map AttributeRule.outline
  | [], [] => by simp [sameRules]
  | a :: as, b :: bs => by
    rw [sameRules, Bool.and_eq_true, AttributeRule.sameAs_iff_outline, sameRules_iff_outline,
      List.map_cons, List.map_cons, List.cons.injEq]
  | [], _ :: _ => by simp [sameRules]
  | _ :: _, [] => by simp [sameRules]

/-- The definition with the matchers of its patterns and its constructor forgotten, but not whether it
has one. -/
def outline (d : KindDef) : KindDef :=
  { d with
    rules := d.rules.map AttributeRule.outline
    build := d.build.map fun _ _ => .error (.notConstructible "") }

theorem sameAs_iff_outline {a b : KindDef} : a.sameAs b = true ↔ a.outline = b.outline := by
  have hbuild : a.build.isSome = b.build.isSome ↔ a.outline.build = b.outline.build := by
    rw [outline, outline]
    cases a.build <;> cases b.build <;> simp
  rw [sameAs_iff, sameRules_iff_outline, hbuild]
  simp only [outline, KindDef.mk.injEq]
  constructor
  · rintro ⟨hkind, hshape, hcontent, hopen, hmemberOf, hbuild, hrules⟩
    exact ⟨hkind, hshape, hcontent, hrules, hopen, hmemberOf, hbuild⟩
  · rintro ⟨hkind, hshape, hcontent, hrules, hopen, hmemberOf, hbuild⟩
    exact ⟨hkind, hshape, hcontent, hopen, hmemberOf, hbuild, hrules⟩

theorem equivalence_sameAs : Equivalence fun a b : KindDef => a.sameAs b = true := by
  simp only [sameAs_iff_outline]
  exact ⟨fun _ => rfl, Eq.symm, Eq.trans⟩

theorem sameAs_comm (a b : KindDef) : a.sameAs b = b.sameAs a :=
  Bool.eq_iff_iff.2 ⟨equivalence_sameAs.symm, equivalence_sameAs.symm⟩

/-- Definitions that are taken for the same are taken for the same as the same others. -/
theorem sameAs_congr {a b : KindDef} (h : a.sameAs b = true) (d : KindDef) : a.sameAs d = b.sameAs d :=
  Bool.eq_iff_iff.2 ⟨equivalence_sameAs.trans (equivalence_sameAs.symm h), equivalence_sameAs.trans h⟩

theorem categories_of_sameAs {a b : KindDef} (h : a.sameAs b = true) : a.categories = b.categories := by
  obtain ⟨-, -, hcontent, -, hmemberOf, -, -⟩ := sameAs_iff.1 h
  rw [categories, categories, hcontent, hmemberOf]

end KindDef

end WikiDoc
