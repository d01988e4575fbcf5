import Mathlib.Data.Set.List
import WikiDoc.Proofs.Document.Reading

/-!
Attributes that obey rules are written as they were read.

Attributes have no problem exactly if they obey every rule and no other name has a value
(`attributeProblems_eq_nil_iff`). A rule that is obeyed leaves its attribute a value of the one type that
its constraint admits, so that reading the attribute by this type gives all there is. Collecting the
fields that were read therefore gives back the attributes, name by name (`get?_collect`).
-/

namespace WikiDoc

/-- All that is required is there, and every value satisfies its constraint. -/
def Obeys (rules : List AttributeRule) (attrs : Attributes) : Prop :=
  ∀ rule ∈ rules, rule.problem? attrs = none

theorem AttributeRule.problem?_eq_none_iff {rule : AttributeRule} {attrs : Attributes} :
    rule.problem? attrs = none ↔
      (∀ value, attrs.get? rule.name = some value → rule.constraint.rejection? value = none) ∧
      (rule.required = true → (attrs.get? rule.name).isSome) := by
  rw [problem?]
  cases attrs.get? rule.name with
  | none => simp
  | some value => simp

theorem undeclaredNames_eq_nil_iff {rules : List AttributeRule} {attrs : Attributes} :
    undeclaredNames rules attrs = [] ↔
      ∀ name, name ∉ rules.map AttributeRule.name → attrs.get? name = none := by
  rw [undeclaredNames, List.filter_eq_nil_iff]
  simp only [OrderedMap.get?_eq_none_iff, Bool.not_eq_true', Bool.not_eq_false, List.any_eq_true,
    beq_iff_eq, List.mem_map]
  constructor
  · intro h name hname hmem
    exact hname (h name hmem)
  · intro h name hmem
    by_contra hname
    exact h name hname hmem

/-- Attributes without a problem obey the rules, and have no further names unless these are admitted. -/
theorem attributeProblems_eq_nil_iff {rules : List AttributeRule} {isOpen : Bool} {attrs : Attributes} :
    attributeProblems rules isOpen attrs = [] ↔ Obeys rules attrs ∧
      (isOpen = false → ∀ name, name ∉ rules.map AttributeRule.name → attrs.get? name = none) := by
  rw [attributeProblems, List.append_eq_nil_iff, List.filterMap_eq_nil_iff, Obeys]
  cases isOpen with
  | true => simp
  | false => simp [undeclaredNames_eq_nil_iff]

/-- Attributes stay without a problem when values are left out that no rule requires. -/
theorem attributeProblems_eq_nil_of_kept {rules : List AttributeRule} {isOpen : Bool}
    {attrs kept : Attributes} (h : attributeProblems rules isOpen attrs = [])
    (hkept : ∀ name, kept.get? name = attrs.get? name ∨
      kept.get? name = none ∧ ∀ rule ∈ rules, rule.name = name → rule.required = false) :
    attributeProblems rules isOpen kept = [] := by
  obtain ⟨hobeys, hothers⟩ := attributeProblems_eq_nil_iff.1 h
  refine attributeProblems_eq_nil_iff.2 ⟨fun rule hrule => ?_, fun hclosed name hname => ?_⟩
  · rcases hkept rule.name with hsame | ⟨hnone, hoptional⟩
    · rw [AttributeRule.problem?, hsame]
      exact hobeys rule hrule
    · rw [AttributeRule.problem?_eq_none_iff, hnone, hoptional rule hrule rfl]
      simp
  · rcases hkept name with hsame | ⟨hnone, -⟩
    · exact hsame.trans (hothers hclosed name hname)
    · exact hnone

/-! ### What a constraint leaves of a value -/

/-- The type of the values that a constraint accepts, if it is one type. -/
def Constraint.type? : Constraint → Option ValueType
  | .any => none
  | .text | .url | .oneOf _ | .pattern _ _ => some .text
  | .bool => some .bool
  | .integer _ _ => some .int
  | .listOf _ => some .list

theorem Constraint.type_of_accepted {c : Constraint} {type : ValueType} {value : AttrValue}
    (hc : c.type? = some type) (h : c.rejection? value = none) : value.type = type := by
  cases c <;> cases value <;> simp_all [type?, rejection?, expect, AttrValue.type, AttrValue.asText,
    AttrValue.asBool, AttrValue.asInt, AttrValue.asList]

/-- An accepted literal is the spelling of a value. -/
theorem Constraint.literal_of_accepted {α : Type} [Spelled α] {value : AttrValue}
    (h : (Constraint.oneOf (Spelled.literals α)).rejection? value = none) :
    ∃ x : α, value = Spelled.toValue x := by
  cases value with
  | text text =>
    have hmem : text ∈ Spelled.literals α := by
      by_contra hne
      simp [rejection?, expect, AttrValue.asText, hne] at h
    obtain ⟨x, -, hx⟩ := List.mem_map.1 hmem
    exact ⟨x, congrArg AttrValue.text hx.symm⟩
  | _ => cases h

/-- A list is accepted if all its items are. -/
theorem Constraint.listOf_accepts_iff {inner : Constraint} {items : List AttrValue} :
    (listOf inner).rejection? (.list items) = none ↔ ∀ item ∈ items, inner.rejection? item = none := by
  refine List.findSome?_eq_none_iff.trans ⟨fun h item hitem => ?_, fun h entry hentry => ?_⟩
  · obtain ⟨i, hi⟩ := List.mem_iff_getElem?.1 hitem
    exact Option.map_eq_none_iff.1 (h (item, i) (List.mk_mem_zipIdx_iff_getElem?.2 hi))
  · exact Option.map_eq_none_iff.2
      (h entry.1 (List.mem_of_getElem? (List.mem_zipIdx_iff_getElem?.1 hentry)))

/-- An accepted list of literals spells a list of values. -/
theorem Constraint.literals_of_accepted {α : Type} [Spelled α] {items : List AttrValue}
    (h : (Constraint.listOf (.oneOf (Spelled.literals α))).rejection? (.list items) = none) :
    ∃ xs : List α, items = xs.map Spelled.toValue := by
  have hitems : ∀ item ∈ items, item ∈ Set.range (Spelled.toValue : α → AttrValue) := by
    intro item hitem
    obtain ⟨x, hx⟩ := literal_of_accepted (listOf_accepts_iff.1 h item hitem)
    exact ⟨x, hx.symm⟩
  obtain ⟨xs, hxs⟩ := (Set.range_list_map (Spelled.toValue : α → AttrValue)).ge hitems
  exact ⟨xs, hxs.symm⟩

/-- An accepted integer lies between the bounds. -/
theorem Constraint.int_of_accepted {min max : Int} {value : AttrValue}
    (h : (Constraint.range min max).rejection? value = none) :
    ∃ n, value = .int n ∧ min ≤ n ∧ n ≤ max := by
  cases value with
  | int n =>
    refine ⟨n, rfl, ?_⟩
    by_contra hout
    by_cases hlow : n < min
    · simp [range, rejection?, expect, AttrValue.asInt, outside?, Option.filter, hlow] at h
    · have hhigh : max < n := by omega
      simp [range, rejection?, expect, AttrValue.asInt, outside?, Option.filter, hlow, hhigh] at h
  | _ => cases h

/-! ### What an obeyed rule leaves of an attribute -/

namespace AttributeRule

variable {rule : AttributeRule} {attrs : Attributes}

/-- Reading an attribute by the type of its rule, and writing what was read, changes nothing. -/
theorem map_read_of_obeyed {β : Type} {read : AttrValue → Option β} {write : β → AttrValue}
    {type : ValueType} (hwrite : ∀ value, value.type = type → (read value).map write = some value)
    (hc : rule.constraint.type? = some type) (h : rule.problem? attrs = none) :
    ((attrs.get? rule.name).bind read).map write = attrs.get? rule.name := by
  cases hvalue : attrs.get? rule.name with
  | none => rfl
  | some value =>
    have haccepted := (problem?_eq_none_iff.1 h).1 value hvalue
    exact hwrite value (Constraint.type_of_accepted hc haccepted)

theorem text_of_obeyed (hc : rule.constraint.type? = some .text) (h : rule.problem? attrs = none) :
    (attrs.text rule.name).map AttrValue.text = attrs.get? rule.name := by
  refine map_read_of_obeyed (fun value htype => ?_) hc h
  cases value with
  | text text => rfl
  | _ => cases htype

theorem flag_of_obeyed (hc : rule.constraint.type? = some .bool) (h : rule.problem? attrs = none) :
    (attrs.flag rule.name).map AttrValue.bool = attrs.get? rule.name := by
  refine map_read_of_obeyed (fun value htype => ?_) hc h
  cases value with
  | bool flag => rfl
  | _ => cases htype

theorem int_of_obeyed (hc : rule.constraint.type? = some .int) (h : rule.problem? attrs = none) :
    (attrs.int rule.name).map AttrValue.int = attrs.get? rule.name := by
  refine map_read_of_obeyed (fun value htype => ?_) hc h
  cases value with
  | int n => rfl
  | _ => cases htype

/-- A required attribute has a value, which satisfies the constraint. -/
theorem value_of_needed {name : String} {c : Constraint} (h : (needed name c).problem? attrs = none) :
    ∃ value, attrs.get? name = some value ∧ c.rejection? value = none := by
  obtain ⟨haccepted, hthere⟩ := problem?_eq_none_iff.1 h
  obtain ⟨value, hvalue⟩ := Option.isSome_iff_exists.1 (hthere rfl)
  exact ⟨value, hvalue, haccepted value hvalue⟩

theorem text_of_needed {name : String} {c : Constraint} (hc : c.type? = some .text)
    (h : (needed name c).problem? attrs = none) : ∃ text, attrs.get? name = some (.text text) := by
  obtain ⟨value, hvalue, haccepted⟩ := value_of_needed h
  have htype := Constraint.type_of_accepted hc haccepted
  cases value with
  | text text => exact ⟨text, hvalue⟩
  | _ => cases htype

theorem literal_of_needed {α : Type} [Spelled α] {name : String}
    (h : (needed name (.oneOf (Spelled.literals α))).problem? attrs = none) :
    ∃ x : α, attrs.get? name = some (Spelled.toValue x) := by
  obtain ⟨value, hvalue, haccepted⟩ := value_of_needed h
  obtain ⟨x, rfl⟩ := Constraint.literal_of_accepted haccepted
  exact ⟨x, hvalue⟩

theorem literal_of_optional {α : Type} [Spelled α] {name : String}
    (h : (optional name (.oneOf (Spelled.literals α))).problem? attrs = none) :
    ∃ x : Option α, attrs.get? name = x.map Spelled.toValue := by
  cases hvalue : attrs.get? name with
  | none => exact ⟨none, rfl⟩
  | some value =>
    obtain ⟨x, rfl⟩ := Constraint.literal_of_accepted ((problem?_eq_none_iff.1 h).1 value hvalue)
    exact ⟨some x, rfl⟩

end AttributeRule

/-! ### Fields that are written as they were read -/

/-- Every field has the value that is found under its name. -/
def Attributes.Holds (attrs : Attributes) (fields : List (String × Option AttrValue)) : Prop :=
  ∀ field ∈ fields, field.2 = attrs.get? field.1

/-- Once fields are written that the attributes hold, their names answer as in the attributes. -/
theorem Attributes.get?_foldl_insert? {attrs : Attributes} (name : String) :
    ∀ {fields : List (String × Option AttrValue)} (written : Attributes), attrs.Holds fields →
      (fields.foldl (fun m field => m.insert? field.1 field.2) written).get? name =
        if name ∈ fields.map Prod.fst then (attrs.get? name).or (written.get? name)
        else written.get? name
  | [], written, _ => by simp
  | field :: fields, written, h => by
    obtain ⟨hfield, hfields⟩ := List.forall_mem_cons.1 h
    rw [List.foldl_cons, get?_foldl_insert? name _ hfields, OrderedMap.get?_insert?, hfield]
    by_cases hname : name = field.1
    · -- a later field of this name has the same value, so it does not matter which comes last
      subst hname
      cases attrs.get? field.1 <;> simp
    · have hmem : name ∈ (field :: fields).map Prod.fst ↔ name ∈ fields.map Prod.fst := by simp [hname]
      simp only [if_neg hname, hmem]

/-- Attributes without a problem are what the fields of their rules give when they are collected. -/
theorem Attributes.get?_collect {attrs : Attributes} {rules : List AttributeRule}
    {fields : List (String × Option AttrValue)} (h : attributeProblems rules false attrs = [])
    (hnames : fields.map Prod.fst = rules.map AttributeRule.name) (hfields : attrs.Holds fields)
    (name : String) : (collect fields).get? name = attrs.get? name := by
  rw [collect, get?_foldl_insert? name _ hfields, OrderedMap.get?_empty, Option.or_none, hnames]
  split
  · rfl
  · next hname => exact ((attributeProblems_eq_nil_iff.1 h).2 rfl name hname).symm

/-! ### Bundles -/

section Bundles

variable {attrs : Attributes} (kind : String)

theorem Resource.of_obeys (h : Obeys rules attrs) :
    ∃ r, ofAttributes kind attrs = .ok r ∧ attrs.Holds r.fields := by
  simp only [Obeys, rules, List.forall_mem_cons] at h
  obtain ⟨hurl, htitle, -⟩ := h
  obtain ⟨url, hurl⟩ := AttributeRule.text_of_needed rfl hurl
  refine ⟨⟨url, attrs.text "title"⟩, ofAttributes_eq ?_ rfl, ?_⟩
  · rw [Attributes.text, hurl]; rfl
  · simp only [Attributes.Holds, fields, List.forall_mem_cons]
    exact ⟨hurl.symm, AttributeRule.text_of_obeyed rfl htitle, List.forall_mem_nil _⟩

theorem Association.of_obeys (h : Obeys rules attrs) :
    ∃ a, ofAttributes kind attrs = .ok a ∧ attrs.Holds a.fields := by
  simp only [Obeys, rules, List.forall_mem_cons] at h
  obtain ⟨hidentifier, hlabel, -⟩ := h
  obtain ⟨identifier, hidentifier⟩ := AttributeRule.text_of_needed rfl hidentifier
  refine ⟨⟨identifier, attrs.text "label"⟩, ofAttributes_eq ?_ rfl, ?_⟩
  · rw [Attributes.text, hidentifier]; rfl
  · simp only [Attributes.Holds, fields, List.forall_mem_cons]
    exact ⟨hidentifier.symm, AttributeRule.text_of_obeyed rfl hlabel, List.forall_mem_nil _⟩

theorem Reference.of_obeys (h : Obeys rules attrs) :
    ∃ r, ofAttributes kind attrs = .ok r ∧ attrs.Holds r.fields := by
  obtain ⟨hassociation, htype⟩ := List.forall_mem_append.1 h
  obtain ⟨association, hread, hfields⟩ := Association.of_obeys kind hassociation
  obtain ⟨referenceType, htype⟩ := AttributeRule.literal_of_needed (htype _ List.mem_cons_self)
  have hliteral : attrs.neededLiteral kind "referenceType" = .ok referenceType := by
    apply Attributes.neededLiteral_eq
    rw [Attributes.text, htype]; rfl
  refine ⟨⟨association, referenceType⟩, ?_, List.forall_mem_append.2 ⟨hfields, ?_⟩⟩
  · rw [ofAttributes, hread, hliteral]; rfl
  · exact List.forall_mem_singleton.2 htype.symm

theorem Media.of_obeys (h : Obeys rules attrs) :
    ∃ m, ofAttributes kind attrs = .ok m ∧ attrs.Holds m.fields := by
  rw [rules, Obeys, List.forall_mem_append, List.forall_mem_append] at h
  obtain ⟨⟨hresource, halternative⟩, hoptions⟩ := h
  obtain ⟨resource, hread, hfields⟩ := Resource.of_obeys kind hresource
  refine ⟨⟨resource, Alternative.ofAttributes attrs, optionsOfAttributes attrs⟩, ?_, ?_⟩
  · rw [ofAttributes, hread]; rfl
  · rw [fields, Attributes.Holds, List.forall_mem_append, List.forall_mem_append]
    refine ⟨⟨hfields, ?_⟩, ?_⟩
    · exact List.forall_mem_singleton.2
        (AttributeRule.text_of_obeyed rfl (halternative _ List.mem_cons_self))
    · simp only [optionRules, optionFields, List.forall_mem_cons] at hoptions ⊢
      obtain ⟨hkind, hlocation, halignment, hsize, hlink, hpage, hlang, hcaption, -⟩ := hoptions
      exact ⟨AttributeRule.text_of_obeyed rfl hkind, AttributeRule.text_of_obeyed rfl hlocation,
        AttributeRule.text_of_obeyed rfl halignment, AttributeRule.text_of_obeyed rfl hsize,
        AttributeRule.text_of_obeyed rfl hlink, AttributeRule.text_of_obeyed rfl hpage,
        AttributeRule.text_of_obeyed rfl hlang, AttributeRule.text_of_obeyed rfl hcaption,
        List.forall_mem_nil _⟩

end Bundles

end WikiDoc
