import WikiDoc.Proofs.Attribute.Obedience

/-!
What is wrong with attributes that are written field by field.

A node writes its data as fields, each under the name of one rule and in the order of the rules. Then no
attribute is undeclared, and the problems with the rules are those of each rule with its own field
(`attributeProblems_of_holds`). As the fields are typed, what can be wrong with them is little: a text has
several lines, is none of the literals or has not the right form, and an integer is out of range. Each
such flaw is stated here without the constraint that finds it, and found by its rule
(`AttributeRule.problemWith?`).
-/

namespace WikiDoc

/-! ### Flaws -/

/-- What is wrong with the value of an attribute that has the right type. -/
inductive Flaw where
  | severalLines (name text : String)
  | tooLow (name : String) (value min : Int)
  | tooHigh (name : String) (value max : Int)
  | unlisted (name text : String) (literals : List String)
  | formless (name text description : String)

/-- The problem that a flaw leads to. -/
def Flaw.problem : Flaw → AttributeProblem
  | .severalLines name text => .invalid name (.multipleLines text)
  | .tooLow name value min => .invalid name (.belowMinimum value min)
  | .tooHigh name value max => .invalid name (.aboveMaximum value max)
  | .unlisted name text literals => .invalid name (.notListed text literals)
  | .formless name text description => .invalid name (.noMatch text description)

/-- Whether a value, or an item of it, is rejected because of its type. -/
def Rejection.isTypeError : Rejection → Bool
  | .wrongType _ _ => true
  | .item _ inner => inner.isTypeError
  | .multipleLines _ | .belowMinimum _ _ | .aboveMaximum _ _ | .notListed _ _ | .noMatch _ _ => false

/-- A flaw never leads to the problem that an attribute is missing, undeclared or of the wrong type. -/
theorem Flaw.problem_eq_invalid (flaw : Flaw) :
    ∃ name rejection, flaw.problem = .invalid name rejection ∧ rejection.isTypeError = false := by
  cases flaw <;> exact ⟨_, _, rfl, rfl⟩

/-- A text holds a line feed or a carriage return. -/
def lineFlaws (name text : String) : List Flaw :=
  if '\n' ∈ text.toList ∨ '\r' ∈ text.toList then [.severalLines name text] else []

/-- An integer is out of range. -/
def rangeFlaws (name : String) (min max value : Int) : List Flaw :=
  if value < min then [.tooLow name value min]
  else if max < value then [.tooHigh name value max]
  else []

/-- A text, if there is one, is none of the literals. -/
def literalFlaws (name : String) (literals : List String) : Option String → List Flaw
  | some text => if text ∈ literals then [] else [.unlisted name text literals]
  | none => []

/-- A text, if there is one, does not have the form that is described. -/
def formFlaws (name description : String) (accepts : String → Bool) : Option String → List Flaw
  | some text => if accepts text then [] else [.formless name text description]
  | none => []

/-! ### Fields in the order of the rules -/

/-- The problem, if any, that a rule has with a value or with its absence. -/
def AttributeRule.problemWith? (rule : AttributeRule) : Option AttrValue → Option AttributeProblem
  | some value => (rule.constraint.rejection? value).map (.invalid rule.name)
  | none => if rule.required then some (.missing rule.name) else none

theorem AttributeRule.problem?_eq (rule : AttributeRule) (attrs : Attributes) :
    rule.problem? attrs = rule.problemWith? (attrs.get? rule.name) := by
  rw [problem?]
  cases attrs.get? rule.name <;> rfl

/-- The problems of rules with fields in the same order. -/
def fieldProblems : List AttributeRule → List (String × Option AttrValue) → List AttributeProblem
  | rule :: rules, field :: fields => (rule.problemWith? field.2).toList ++ fieldProblems rules fields
  | [], _ | _, [] => []

theorem fieldProblems_append {rules' : List AttributeRule} {fields' : List (String × Option AttrValue)} :
    ∀ {rules : List AttributeRule} {fields : List (String × Option AttrValue)},
    fields.map Prod.fst = rules.map AttributeRule.name →
    fieldProblems (rules ++ rules') (fields ++ fields') =
      fieldProblems rules fields ++ fieldProblems rules' fields'
  | [], [], _ => rfl
  | rule :: rules, field :: fields, h => by
    rw [List.map_cons, List.map_cons, List.cons.injEq] at h
    simp only [List.cons_append, fieldProblems, fieldProblems_append h.2, List.append_assoc]
  | [], _ :: _, h => by cases h
  | _ :: _, [], h => by cases h

/-- Rules have the problems with attributes that they have with the fields that the attributes hold. -/
theorem filterMap_problem?_of_holds {attrs : Attributes} :
    ∀ {rules : List AttributeRule} {fields : List (String × Option AttrValue)},
    fields.map Prod.fst = rules.map AttributeRule.name → attrs.Holds fields →
    rules.filterMap (·.problem? attrs) = fieldProblems rules fields
  | [], [], _, _ => rfl
  | rule :: rules, field :: fields, hnames, h => by
    rw [List.map_cons, List.map_cons, List.cons.injEq] at hnames
    obtain ⟨hfield, hfields⟩ := List.forall_mem_cons.1 h
    have hhead : rule.problem? attrs = rule.problemWith? field.2 := by
      rw [AttributeRule.problem?_eq, hfield, hnames.1]
    rw [fieldProblems, ← filterMap_problem?_of_holds hnames.2 hfields, List.filterMap_cons, hhead]
    cases rule.problemWith? field.2 <;> rfl
  | [], _ :: _, h, _ => by cases h
  | _ :: _, [], h, _ => by cases h

/-- Attributes that hold a field for each rule, and nothing else unless further ones are admitted, have
no problems but those of each rule with its field. -/
theorem attributeProblems_of_holds {rules : List AttributeRule} {isOpen : Bool} {attrs : Attributes}
    {fields : List (String × Option AttrValue)}
    (hnames : fields.map Prod.fst = rules.map AttributeRule.name) (hholds : attrs.Holds fields)
    (hothers : isOpen = false → ∀ name, name ∉ fields.map Prod.fst → attrs.get? name = none) :
    attributeProblems rules isOpen attrs = fieldProblems rules fields := by
  rw [attributeProblems, filterMap_problem?_of_holds hnames hholds]
  cases isOpen with
  | true => exact List.append_nil _
  | false =>
    have hdeclared : undeclaredNames rules attrs = [] :=
      undeclaredNames_eq_nil_iff.2 fun name hname => hothers rfl name (hnames ▸ hname)
    rw [hdeclared]
    exact List.append_nil _

/-- Writing fields leaves the other names alone. -/
theorem Attributes.get?_foldl_of_notMem {name : String} :
    ∀ {fields : List (String × Option AttrValue)} (written : Attributes),
    name ∉ fields.map Prod.fst →
    (fields.foldl (fun m field => m.insert? field.1 field.2) written).get? name = written.get? name
  | [], _, _ => rfl
  | field :: fields, written, h => by
    rw [List.map_cons, List.mem_cons, not_or] at h
    rw [List.foldl_cons, get?_foldl_of_notMem _ h.2, OrderedMap.get?_insert?, if_neg h.1]

/-- Fields that are written under names of their own are found there. -/
theorem Attributes.holds_foldl : ∀ {fields : List (String × Option AttrValue)} (written : Attributes),
    (fields.map Prod.fst).Nodup → (∀ name ∈ fields.map Prod.fst, written.get? name = none) →
    (fields.foldl (fun m field => m.insert? field.1 field.2) written).Holds fields
  | [], _, _, _ => List.forall_mem_nil _
  | field :: fields, written, hnodup, hnew => by
    rw [List.map_cons, List.nodup_cons] at hnodup
    obtain ⟨hfirst, hrest⟩ := List.forall_mem_cons.1 hnew
    rw [List.foldl_cons]
    refine List.forall_mem_cons.2 ⟨?_, holds_foldl _ hnodup.2 fun name hname => ?_⟩
    · rw [get?_foldl_of_notMem _ hnodup.1, OrderedMap.get?_insert?, if_pos rfl, hfirst, Option.or_none]
    · have hne : name ≠ field.1 := fun heq => hnodup.1 (heq ▸ hname)
      rw [OrderedMap.get?_insert?, if_neg hne, hrest name hname]

/-- Fields that are collected have no problems but those of each rule with its field. -/
theorem attributeProblems_collect {rules : List AttributeRule} {isOpen : Bool}
    {fields : List (String × Option AttrValue)}
    (hnames : fields.map Prod.fst = rules.map AttributeRule.name)
    (hnodup : (rules.map AttributeRule.name).Nodup) :
    attributeProblems rules isOpen (.collect fields) = fieldProblems rules fields :=
  attributeProblems_of_holds hnames (Attributes.holds_foldl _ (hnames ▸ hnodup) fun _ _ => rfl)
    fun _ _ hname => Attributes.get?_foldl_of_notMem _ hname

/-! ### The problem of a rule with a typed field -/

theorem Constraint.accepts_toValue {α : Type} [Spelled α] [LawfulSpelled α] (x : α) :
    (Constraint.oneOf (Spelled.literals α)).rejection? (Spelled.toValue x) = none := by
  have hmem : spelling x ∈ Spelled.literals α := List.mem_map_of_mem (LawfulSpelled.mem_values x)
  simp [rejection?, expect, Spelled.toValue, AttrValue.asText, hmem]

theorem Constraint.accepts_toValues {α : Type} [Spelled α] [LawfulSpelled α] (xs : List α) :
    (Constraint.listOf (.oneOf (Spelled.literals α))).rejection? (.list (xs.map Spelled.toValue)) =
      none := by
  refine listOf_accepts_iff.2 fun item hitem => ?_
  obtain ⟨x, -, rfl⟩ := List.mem_map.1 hitem
  exact accepts_toValue x

namespace AttributeRule

theorem problemWith?_of_accepted {rule : AttributeRule} {value : AttrValue}
    (h : rule.constraint.rejection? value = none) : rule.problemWith? (some value) = none :=
  Option.map_eq_none_iff.2 h

variable (name : String)

/-- A field that holds what the constraint accepts, or nothing, has no problem. -/
theorem problemWith?_map {β : Type} {constraint : Constraint} {write : β → AttrValue}
    (h : ∀ x, constraint.rejection? (write x) = none) (value : Option β) :
    (optional name constraint).problemWith? (value.map write) = none := by
  cases value with
  | none => rfl
  | some x => exact problemWith?_of_accepted (h x)

@[simp]
theorem problemWith?_text (value : Option String) :
    (optional name .text).problemWith? (value.map .text) = none :=
  problemWith?_map name (fun _ => rfl) value

@[simp]
theorem problemWith?_flag (value : Option Bool) :
    (optional name .bool).problemWith? (value.map .bool) = none :=
  problemWith?_map name (fun _ => rfl) value

@[simp]
theorem problemWith?_int (value : Option Int) :
    (optional name (.integer none none)).problemWith? (value.map .int) = none :=
  problemWith?_map name (fun _ => rfl) value

@[simp]
theorem problemWith?_neededText (text : String) :
    (needed name .text).problemWith? (some (.text text)) = none := rfl

@[simp]
theorem problemWith?_literal {α : Type} [Spelled α] [LawfulSpelled α] (value : Option α) :
    (optional name (.oneOf (Spelled.literals α))).problemWith? (value.map Spelled.toValue) = none :=
  problemWith?_map name Constraint.accepts_toValue value

@[simp]
theorem problemWith?_neededLiteral {α : Type} [Spelled α] [LawfulSpelled α] (x : α) :
    (needed name (.oneOf (Spelled.literals α))).problemWith? (some (Spelled.toValue x)) = none :=
  problemWith?_of_accepted (Constraint.accepts_toValue x)

/-- A text that must stand on one line is wrong if it has several. -/
@[simp]
theorem toList_problemWith?_url (text : String) :
    ((needed name .url).problemWith? (some (.text text))).toList =
      (lineFlaws name text).map Flaw.problem := by
  have hspans : Constraint.spansLines text = true ↔ '\n' ∈ text.toList ∨ '\r' ∈ text.toList := by
    simp only [Constraint.spansLines, List.any_eq_true, Bool.or_eq_true, beq_iff_eq]
    constructor
    · rintro ⟨c, hc, rfl | rfl⟩
      · exact Or.inl hc
      · exact Or.inr hc
    · rintro (hc | hc)
      · exact ⟨_, hc, Or.inl rfl⟩
      · exact ⟨_, hc, Or.inr rfl⟩
  by_cases h : Constraint.spansLines text = true
  · rw [lineFlaws, if_pos (hspans.1 h)]
    simp [problemWith?, needed, Constraint.rejection?, Constraint.expect, AttrValue.asText, h,
      Flaw.problem]
  · rw [lineFlaws, if_neg fun hlines => h (hspans.2 hlines)]
    simp [problemWith?, needed, Constraint.rejection?, Constraint.expect, AttrValue.asText, h]

@[simp]
theorem toList_problemWith?_oneOf (literals : List String) (value : Option String) :
    ((optional name (.oneOf literals)).problemWith? (value.map .text)).toList =
      (literalFlaws name literals value).map Flaw.problem := by
  cases value with
  | none => rfl
  | some text =>
    by_cases h : text ∈ literals <;>
      simp [problemWith?, optional, Constraint.rejection?, Constraint.expect, AttrValue.asText, h,
        literalFlaws, Flaw.problem]

@[simp]
theorem toList_problemWith?_pattern (description : String) (accepts : String → Bool)
    (value : Option String) :
    ((optional name (.pattern description accepts)).problemWith? (value.map .text)).toList =
      (formFlaws name description accepts value).map Flaw.problem := by
  cases value with
  | none => rfl
  | some text =>
    by_cases h : accepts text = true <;>
      simp [problemWith?, optional, Constraint.rejection?, Constraint.expect, AttrValue.asText, h,
        formFlaws, Flaw.problem]

@[simp]
theorem toList_problemWith?_range (min max value : Int) :
    ((needed name (.range min max)).problemWith? (some (.int value))).toList =
      (rangeFlaws name min max value).map Flaw.problem := by
  by_cases hlow : value < min
  · simp [problemWith?, needed, Constraint.range, Constraint.rejection?, Constraint.expect,
      AttrValue.asInt, Constraint.outside?, Option.filter, rangeFlaws, hlow, Flaw.problem]
  · by_cases hhigh : max < value <;>
      simp [problemWith?, needed, Constraint.range, Constraint.rejection?, Constraint.expect,
        AttrValue.asInt, Constraint.outside?, Option.filter, rangeFlaws, hlow, hhigh, Flaw.problem]

end AttributeRule

/-! ### Bundles -/

@[simp]
theorem Resource.fieldProblems_fields (r : Resource) :
    fieldProblems rules r.fields = (lineFlaws "url" r.url).map Flaw.problem := by
  simp [rules, fields, fieldProblems]

@[simp]
theorem Association.fieldProblems_fields (a : Association) : fieldProblems rules a.fields = [] := by
  simp [rules, fields, fieldProblems]

@[simp]
theorem Reference.fieldProblems_fields (r : Reference) : fieldProblems rules r.fields = [] := by
  have hsplit : fieldProblems rules r.fields = fieldProblems Association.rules r.association.fields ++
      fieldProblems _ [("referenceType", some (Spelled.toValue r.referenceType))] :=
    fieldProblems_append rfl
  rw [hsplit, Association.fieldProblems_fields]
  simp [fieldProblems]

/-- What can be wrong with an embed: its locator, and those options that have legal spellings. -/
def Media.flaws (m : Media) : List Flaw :=
  lineFlaws "url" m.resource.url ++ literalFlaws "kind" kinds m.options.kind ++
    literalFlaws "location" locations m.options.location ++
    literalFlaws "alignment" alignments m.options.alignment ++
    formFlaws "size" "<n>px, x<n>px, <n>x<n>px, upright or upright=<number>" Form.isMediaSize
      m.options.size

@[simp]
theorem Media.fieldProblems_fields (m : Media) :
    fieldProblems rules m.fields = m.flaws.map Flaw.problem := by
  have hsplit : fieldProblems rules m.fields = fieldProblems Resource.rules m.resource.fields ++
      fieldProblems Alternative.rules m.alternative.fields ++
      fieldProblems optionRules (optionFields m.options) := by
    rw [rules, fields, fieldProblems_append rfl, fieldProblems_append rfl]
  rw [hsplit, Resource.fieldProblems_fields]
  simp [Alternative.rules, Alternative.fields, optionRules, optionFields, size, fieldProblems, flaws]

end WikiDoc
