import WikiDoc.Attribute.Value

/-!
Closed sets of attribute literals: each value of the set has one spelling, and a text is read back by
looking for the value that is spelled so.
-/

namespace WikiDoc

/-- A closed set of values, each with its spelling. -/
class Spelled (α : Type) where
  /-- All values, in the order in which messages list them. -/
  values : List α
  /-- The spelling of a value. -/
  spelling : α → String

export Spelled (spelling)

/-- A text that spells none of the literals. -/
structure UnknownLiteral where
  text : String
  literals : List String
  deriving DecidableEq

/-- The wording of the error. -/
def UnknownLiteral.message (e : UnknownLiteral) : String :=
  "`" ++ e.text ++ "` is not one of: " ++ ", ".intercalate e.literals

namespace Spelled

/-- Every spelling, in the order of the values. -/
def literals (α : Type) [Spelled α] : List String := (values : List α).map spelling

/-- The value spelled so. -/
def read {α : Type} [Spelled α] (text : String) : Except UnknownLiteral α :=
  match (values : List α).find? fun value => spelling value == text with
  | some value => .ok value
  | none => .error ⟨text, literals α⟩

/-- The attribute value of a literal: its spelling. -/
def toValue {α : Type} [Spelled α] (value : α) : AttrValue := .text (spelling value)

end Spelled

end WikiDoc
