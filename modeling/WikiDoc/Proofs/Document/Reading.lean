import WikiDoc.Document.Node

/-!
Attributes are read back as they were written.

A field that was collected into attributes is found under its name, an absent one is not. A literal is
read from its spelling (`read_spelling`), and each bundle is read from any attributes that hold its
fields.
-/

namespace WikiDoc

/-! ### Literals -/

/-- A closed set of values that lists them all, under different spellings. -/
class LawfulSpelled (α : Type) [Spelled α] : Prop where
  mem_values : ∀ x : α, x ∈ (Spelled.values : List α)
  spelling_inj : ∀ x y : α, spelling x = spelling y → x = y

instance : LawfulSpelled ReferenceType where
  mem_values x := by cases x <;> decide
  spelling_inj x y := by cases x <;> cases y <;> decide

instance : LawfulSpelled Alignment where
  mem_values x := by cases x <;> decide
  spelling_inj x y := by cases x <;> cases y <;> decide

instance : LawfulSpelled SignatureForm where
  mem_values x := by cases x <;> decide
  spelling_inj x y := by cases x <;> cases y <;> decide

instance : LawfulSpelled MathDisplay where
  mem_values x := by cases x <;> decide
  spelling_inj x y := by cases x <;> cases y <;> decide

/-- A value is read from its spelling. -/
theorem read_spelling {α : Type} [Spelled α] [LawfulSpelled α] (x : α) :
    Spelled.read (spelling x) = .ok x := by
  unfold Spelled.read
  split
  · next y hy =>
    have hspelling : spelling y = spelling x := by simpa using List.find?_some hy
    rw [LawfulSpelled.spelling_inj y x hspelling]
  · next hnone =>
    have hother := List.find?_eq_none.1 hnone x (LawfulSpelled.mem_values x)
    simp at hother

namespace Attributes

theorem readLiteral_spelling {α : Type} [Spelled α] [LawfulSpelled α] (kind name : String) (x : α) :
    readLiteral kind name (spelling x) = .ok x := by
  rw [readLiteral, read_spelling]; rfl

/-! ### Fields -/

@[simp]
theorem text_of_map (value : Option String) :
    (value.map AttrValue.text).bind AttrValue.asText = value := by cases value <;> rfl

@[simp]
theorem flag_of_map (value : Option Bool) :
    (value.map AttrValue.bool).bind AttrValue.asBool = value := by cases value <;> rfl

@[simp]
theorem int_of_map (value : Option Int) :
    (value.map AttrValue.int).bind AttrValue.asInt = value := by cases value <;> rfl

variable {attrs : Attributes} {kind : String}

theorem neededText_eq {name text : String} (h : attrs.text name = some text) :
    attrs.neededText kind name = .ok text := by
  rw [neededText, h]

theorem neededLiteral_eq {α : Type} [Spelled α] [LawfulSpelled α] {name : String} {x : α}
    (h : attrs.text name = some (spelling x)) : attrs.neededLiteral kind name = .ok x := by
  rw [neededLiteral, neededText_eq h]
  exact readLiteral_spelling kind name x

theorem optionalLiteral_eq {α : Type} [Spelled α] [LawfulSpelled α] {name : String} {x : Option α}
    (h : attrs.text name = x.map spelling) : attrs.optionalLiteral kind name = .ok x := by
  rw [optionalLiteral, h]
  cases x with
  | none => rfl
  | some x => simp only [Option.map_some, readLiteral_spelling]; rfl

end Attributes

/-! ### Bundles -/

variable {attrs : Attributes} {kind : String}

theorem Resource.ofAttributes_eq {r : Resource} (hurl : attrs.text "url" = some r.url)
    (htitle : attrs.text "title" = r.title) : ofAttributes kind attrs = .ok r := by
  rw [ofAttributes, Attributes.neededText_eq hurl, htitle]; rfl

theorem Association.ofAttributes_eq {a : Association}
    (hidentifier : attrs.text "identifier" = some a.identifier)
    (hlabel : attrs.text "label" = a.label) : ofAttributes kind attrs = .ok a := by
  rw [ofAttributes, Attributes.neededText_eq hidentifier, hlabel]; rfl

theorem Reference.ofAttributes_fields (r : Reference) :
    ofAttributes kind (.collect r.fields) = .ok r := by
  have hassociation : Association.ofAttributes kind (.collect r.fields) = .ok r.association := by
    apply Association.ofAttributes_eq <;>
      simp [Attributes.text, Attributes.collect, fields, Association.fields, AttrValue.asText]
  have htype : (Attributes.collect r.fields).neededLiteral kind "referenceType" = .ok r.referenceType := by
    apply Attributes.neededLiteral_eq
    simp [Attributes.text, Attributes.collect, fields, Association.fields, Spelled.toValue,
      AttrValue.asText]
  rw [ofAttributes, hassociation, htype]; rfl

theorem Media.ofAttributes_fields (m : Media) : ofAttributes kind (.collect m.fields) = .ok m := by
  have hresource : Resource.ofAttributes kind (.collect m.fields) = .ok m.resource := by
    apply Resource.ofAttributes_eq <;>
      simp [Attributes.text, Attributes.collect, fields, Resource.fields, Alternative.fields,
        optionFields, AttrValue.asText]
  have halternative : Alternative.ofAttributes (.collect m.fields) = m.alternative := by
    simp [Alternative.ofAttributes, Attributes.text, Attributes.collect, fields, Resource.fields,
      Alternative.fields, optionFields]
  have hoptions : optionsOfAttributes (.collect m.fields) = m.options := by
    simp [optionsOfAttributes, Attributes.text, Attributes.collect, fields, Resource.fields,
      Alternative.fields, optionFields]
  rw [ofAttributes, hresource, halternative, hoptions]; rfl

end WikiDoc
