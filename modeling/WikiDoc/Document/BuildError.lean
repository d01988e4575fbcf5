import WikiDoc.Attribute.Rule
import WikiDoc.Attribute.Spelling

/-!
What can go wrong when a node is built from its parts.
-/

namespace WikiDoc

/-- Why an attribute is refused when a node is built. -/
inductive Refusal where
  /-- The value breaks the constraint of its rule. -/
  | rejected (rejection : Rejection)
  /-- The kind has no rule for the attribute. -/
  | undeclared
  /-- The text spells none of the literals that the node can hold. -/
  | unknownLiteral (error : UnknownLiteral)
  /-- The first number of a list does not fit in 32 bits. -/
  | listStart
  /-- A gallery holds text options only. -/
  | galleryOption
  deriving DecidableEq

/-- The wording of a refusal. -/
def Refusal.message : Refusal → String
  | .rejected rejection => rejection.message
  | .undeclared => "attribute is not declared by the node kind"
  | .unknownLiteral error => error.message
  | .listStart => "out of range for a list start"
  | .galleryOption => "gallery options are text"

/-- How the parts of a node can contradict the shape of its kind. -/
inductive Misshape where
  | valueOfParent
  | childrenOfLiteral
  | noValueOfLiteral
  | contentOfLeaf
  deriving DecidableEq

/-- The wording of a contradicted shape. -/
def Misshape.message : Misshape → String
  | .valueOfParent => "a parent node has no value"
  | .childrenOfLiteral => "a literal node has no children"
  | .noValueOfLiteral => "a literal node requires a value"
  | .contentOfLeaf => "a leaf node has neither children nor a value"

/-- Why no node can be built. -/
inductive BuildError where
  | missingAttribute (kind name : String)
  | invalidAttribute (kind name : String) (refusal : Refusal)
  | unknownKind (kind : String)
  | invalidShape (kind : String) (misshape : Misshape)
  | notConstructible (kind : String)
  deriving DecidableEq

/-- The wording of the error. -/
def BuildError.message : BuildError → String
  | .missingAttribute kind name => "`" ++ kind ++ "` requires attribute `" ++ name ++ "`"
  | .invalidAttribute kind name refusal =>
    "invalid attribute `" ++ name ++ "` on `" ++ kind ++ "`: " ++ refusal.message
  | .unknownKind kind => "unknown node kind `" ++ kind ++ "`"
  | .invalidShape kind misshape => "invalid shape for `" ++ kind ++ "`: " ++ misshape.message
  | .notConstructible kind => "node kind `" ++ kind ++ "` has no tag-driven constructor"

namespace Attributes

/-- Reads a text that a node of the kind must have. -/
def neededText (attrs : Attributes) (kind name : String) : Except BuildError String :=
  match attrs.text name with
  | some text => .ok text
  | none => .error (.missingAttribute kind name)

/-- Reads a text as a literal for a node of the kind. -/
def readLiteral {α : Type} [Spelled α] (kind name text : String) : Except BuildError α :=
  (Spelled.read text).mapError fun e => .invalidAttribute kind name (.unknownLiteral e)

/-- Reads a literal that a node of the kind must have. -/
def neededLiteral {α : Type} [Spelled α] (attrs : Attributes) (kind name : String) :
    Except BuildError α :=
  attrs.neededText kind name >>= readLiteral kind name

/-- Reads a literal that a node of the kind may have. -/
def optionalLiteral {α : Type} [Spelled α] (attrs : Attributes) (kind name : String) :
    Except BuildError (Option α) :=
  match attrs.text name with
  | some text => (readLiteral kind name text).map some
  | none => .ok none

end Attributes

end WikiDoc
