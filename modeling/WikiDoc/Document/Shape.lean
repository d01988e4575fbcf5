/-!
The three shapes of nodes: with children, with a value, or with neither.
-/

namespace WikiDoc

/-- What a node carries besides its attributes. -/
inductive Shape where
  /-- Children in order, and no value. -/
  | parent
  /-- A value, and no children. -/
  | literal
  /-- Neither children nor a value. -/
  | leaf
  deriving DecidableEq

namespace Shape

/-- The name of a shape in messages. -/
def name : Shape → String
  | .parent => "parent"
  | .literal => "literal"
  | .leaf => "leaf"

/-- The name of a shape in the log. -/
def title : Shape → String
  | .parent => "Parent"
  | .literal => "Literal"
  | .leaf => "Leaf"

end Shape

end WikiDoc
