import WikiDoc.Attribute.Value
import WikiDoc.OrderedMap

/-!
The attributes of a node: a map from names to values in the order in which they were set.
-/

namespace WikiDoc

/-- Attribute values by name, in the order in which the names were first set. -/
abbrev Attributes := OrderedMap String AttrValue

namespace Attributes

/-- The text at a name, if there is a text value. -/
def text (attrs : Attributes) (name : String) : Option String :=
  (attrs.get? name).bind AttrValue.asText

/-- The flag at a name, if there is a boolean value. -/
def flag (attrs : Attributes) (name : String) : Option Bool :=
  (attrs.get? name).bind AttrValue.asBool

/-- The number at a name, if there is an integer value. -/
def int (attrs : Attributes) (name : String) : Option Int :=
  (attrs.get? name).bind AttrValue.asInt

/-- Sets those fields that have a value, one after the other. -/
def collect (fields : List (String × Option AttrValue)) : Attributes :=
  fields.foldl (fun attrs field => attrs.insert? field.1 field.2) OrderedMap.empty

end Attributes

end WikiDoc
