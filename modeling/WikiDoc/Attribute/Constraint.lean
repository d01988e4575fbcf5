import WikiDoc.Attribute.Value

/-!
Constraints on single attribute values.

`rejection?` answers nothing for a value that the constraint accepts, and otherwise why it is rejected.
A list is rejected for the first item that the inner constraint rejects. Two constraints are the
`sameAs` each other when they are built alike, patterns being told apart by their description alone.
-/

namespace WikiDoc

/-- What a single attribute value must look like. -/
inductive Constraint where
  /-- Any value. -/
  | any
  /-- Any text. -/
  | text
  /-- Text on a single line, naming a resource. -/
  | url
  /-- A flag. -/
  | bool
  /-- An integer between two bounds, each of which may be absent. -/
  | integer (min max : Option Int)
  /-- Text spelled exactly as one of the literals. -/
  | oneOf (literals : List String)
  /-- Text of a certain form, with a description of it for messages. -/
  | pattern (description : String) (accepts : String → Bool)
  /-- A list whose items all satisfy the inner constraint. -/
  | listOf (inner : Constraint)

/-- Why a constraint rejects a value. -/
inductive Rejection where
  | wrongType (expected found : ValueType)
  | multipleLines (text : String)
  | belowMinimum (value min : Int)
  | aboveMaximum (value max : Int)
  | notListed (text : String) (literals : List String)
  | noMatch (text : String) (description : String)
  | item (index : Nat) (inner : Rejection)
  deriving DecidableEq

/-- The wording of a rejection. -/
def Rejection.message : Rejection → String
  | .wrongType expected found => "expected " ++ expected.name ++ ", found " ++ found.name
  | .multipleLines text => (AttrValue.text text).display ++ " spans multiple lines"
  | .belowMinimum value min =>
    (AttrValue.int value).display ++ " is less than the minimum " ++ (AttrValue.int min).display
  | .aboveMaximum value max =>
    (AttrValue.int value).display ++ " is greater than the maximum " ++ (AttrValue.int max).display
  | .notListed text literals =>
    (AttrValue.text text).display ++ " is not one of: " ++ ", ".intercalate literals
  | .noMatch text description => (AttrValue.text text).display ++ " does not match " ++ description
  | .item index inner => "item " ++ index.repr ++ ": " ++ inner.message

namespace Constraint

/-- An integer in `min` to `max`. -/
def range (min max : Int) : Constraint := .integer (some min) (some max)

/-- Whether a text holds a line feed or a carriage return. -/
def spansLines (text : String) : Bool := text.toList.any fun c => c == '\n' || c == '\r'

/-- Why an integer lies outside the bounds; the lower one is tried first. -/
def outside? (min max : Option Int) (value : Int) : Option Rejection :=
  match min.filter (value < ·) with
  | some low => some (.belowMinimum value low)
  | none => (max.filter (· < value)).map (.aboveMaximum value)

/-- Hands the payload of a value of the expected type to a test; any other value is rejected. -/
def expect {β : Type} (expected : ValueType) (value : AttrValue) (payload : Option β)
    (test : β → Option Rejection) : Option Rejection :=
  match payload with
  | some content => test content
  | none => some (.wrongType expected value.type)

/-- Why the constraint rejects a value; nothing if it accepts it. -/
def rejection? : Constraint → AttrValue → Option Rejection
  | .any, _ => none
  | .text, v => expect .text v v.asText fun _ => none
  | .url, v => expect .text v v.asText fun text =>
      if spansLines text then some (.multipleLines text) else none
  | .bool, v => expect .bool v v.asBool fun _ => none
  | .integer min max, v => expect .int v v.asInt (outside? min max)
  | .oneOf literals, v => expect .text v v.asText fun text =>
      if text ∈ literals then none else some (.notListed text literals)
  | .pattern description accepts, v => expect .text v v.asText fun text =>
      if accepts text then none else some (.noMatch text description)
  | .listOf inner, v => expect .list v v.asList fun items =>
      items.zipIdx.findSome? fun (item, index) => (inner.rejection? item).map (.item index)

/-- Whether two constraints are built alike; a pattern is known by its description. -/
def sameAs : Constraint → Constraint → Bool
  | .any, .any | .text, .text | .url, .url | .bool, .bool => true
  | .integer min max, .integer min' max' => min == min' && max == max'
  | .oneOf literals, .oneOf literals' => literals == literals'
  | .pattern description _, .pattern description' _ => description == description'
  | .listOf inner, .listOf inner' => inner.sameAs inner'
  | _, _ => false

end Constraint

end WikiDoc
