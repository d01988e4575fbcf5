import WikiDoc.Text.Quoted

/-!
Attribute values: text, flags, integers and lists of values.

Equality of values is decided by comparing them part by part, so lists are compared item by item and
in order. `display` writes a value as messages show it: text between quotes, flags and integers plain,
lists between brackets with a comma and a space between items.
-/

namespace WikiDoc

/-- A scalar or list attribute value. -/
inductive AttrValue where
  | text (value : String)
  | bool (value : Bool)
  | int (value : Int)
  | list (items : List AttrValue)

/-- The four types of attribute values. -/
inductive ValueType where
  | text
  | bool
  | int
  | list
  deriving DecidableEq

/-- The name of a type in messages. -/
def ValueType.name : ValueType → String
  | .text => "text"
  | .bool => "boolean"
  | .int => "integer"
  | .list => "list"

namespace AttrValue

mutual

/-- Decides equality of two values. -/
def decEq : (a b : AttrValue) → Decidable (a = b)
  | .text a, .text b => decidable_of_iff (a = b) (by simp)
  | .bool a, .bool b => decidable_of_iff (a = b) (by simp)
  | .int a, .int b => decidable_of_iff (a = b) (by simp)
  | .list a, .list b =>
    match decEqItems a b with
    | isTrue h => isTrue (congrArg list h)
    | isFalse h => isFalse (fun e => h (list.inj e))
  | .text _, .bool _ | .text _, .int _ | .text _, .list _
  | .bool _, .text _ | .bool _, .int _ | .bool _, .list _
  | .int _, .text _ | .int _, .bool _ | .int _, .list _
  | .list _, .text _ | .list _, .bool _ | .list _, .int _ => isFalse nofun

/-- Decides equality of two lists of values, item by item. -/
def decEqItems : (a b : List AttrValue) → Decidable (a = b)
  | [], [] => isTrue rfl
  | [], _ :: _ | _ :: _, [] => isFalse nofun
  | a :: as, b :: bs =>
    match decEq a b, decEqItems as bs with
    | isTrue h, isTrue hs => isTrue (h ▸ hs ▸ rfl)
    | isFalse h, _ => isFalse (fun e => h (List.cons.inj e).1)
    | _, isFalse hs => isFalse (fun e => hs (List.cons.inj e).2)

end

instance : DecidableEq AttrValue := decEq

/-- The type of a value. -/
def type : AttrValue → ValueType
  | .text _ => .text
  | .bool _ => .bool
  | .int _ => .int
  | .list _ => .list

/-- The text of a text value. -/
def asText : AttrValue → Option String
  | .text value => some value
  | _ => none

/-- The flag of a boolean value. -/
def asBool : AttrValue → Option Bool
  | .bool value => some value
  | _ => none

/-- The number of an integer value. -/
def asInt : AttrValue → Option Int
  | .int value => some value
  | _ => none

/-- The items of a list value. -/
def asList : AttrValue → Option (List AttrValue)
  | .list items => some items
  | _ => none

/-- An integer in decimal notation. -/
def decimal (n : Int) : List Char :=
  if n < 0 then '-' :: Nat.toDigits 10 n.natAbs else Nat.toDigits 10 n.natAbs

mutual

/-- The characters of a value as messages show it. -/
def chars : AttrValue → List Char
  | .text value => Text.quote value.toList
  | .bool true => ['t', 'r', 'u', 'e']
  | .bool false => ['f', 'a', 'l', 's', 'e']
  | .int value => decimal value
  | .list [] => ['[', ']']
  | .list (item :: rest) => '[' :: item.chars ++ laterChars rest ++ [']']

/-- The items of a list after its first, each behind a comma and a space. -/
def laterChars : List AttrValue → List Char
  | [] => []
  | item :: rest => ',' :: ' ' :: item.chars ++ laterChars rest

end

/-- A value as messages show it. -/
def display (v : AttrValue) : String := String.ofList v.chars

end AttrValue

end WikiDoc
