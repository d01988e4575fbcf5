import WikiDoc.Document.Node
import WikiDoc.Kind.Category

/-!
Definitions of node kinds.

A definition says which shape the nodes of a kind have, which category their children must belong to,
which rules their attributes obey and which categories the kind joins. It may come with a constructor.
`construct` builds a node from parts: it checks the parts against the shape and the rules before it
calls the constructor, and leaves the category of the children to the validator.
-/

namespace WikiDoc

/-- Builds a node from parts that satisfy its definition. -/
abbrev Constructor := Parts → Except BuildError Node

/-- The definition of a node kind. -/
structure KindDef where
  kind : String
  shape : Shape
  /-- The category that every child must belong to. -/
  content : Option Category
  rules : List AttributeRule := []
  /-- Whether attributes without a rule are accepted. -/
  isOpen : Bool := false
  /-- The categories that the kind joins. -/
  memberOf : List Category := []
  build : Option Constructor := none

namespace KindDef

/-- A kind whose children must belong to a category. -/
def parent (kind : String) (content : Category) : KindDef :=
  { kind, shape := .parent, content := some content }

/-- A kind with a value. -/
def literal (kind : String) : KindDef := { kind, shape := .literal, content := none }

/-- A kind with attributes only. -/
def leaf (kind : String) : KindDef := { kind, shape := .leaf, content := none }

/-- Lets the kind join a category, once. -/
def joining (d : KindDef) (category : Category) : KindDef :=
  if category ∈ d.memberOf then d else { d with memberOf := d.memberOf ++ [category] }

/-- The categories that the definition refers to, that of its children first. -/
def categories (d : KindDef) : List Category := d.content.toList ++ d.memberOf

/-- The first rule for an attribute. -/
def rule? (d : KindDef) (name : String) : Option AttributeRule :=
  d.rules.find? fun rule => rule.name == name

/-- The problems of a map of attributes with the rules of the kind. -/
def problems (d : KindDef) (attrs : Attributes) : List AttributeProblem :=
  attributeProblems d.rules d.isOpen attrs

/-- Whether two lists of rules say the same, rule by rule. -/
def sameRules : List AttributeRule → List AttributeRule → Bool
  | [], [] => true
  | a :: as, b :: bs => a.sameAs b && sameRules as bs
  | _, _ => false

/-- Whether two definitions describe the same kind. Of the constructors it only counts whether there
is one. -/
def sameAs (a b : KindDef) : Bool :=
  a.kind == b.kind && decide (a.shape = b.shape) && decide (a.content = b.content) &&
    a.isOpen == b.isOpen && decide (a.memberOf = b.memberOf) &&
    a.build.isSome == b.build.isSome && sameRules a.rules b.rules

/-- How parts contradict the shape of a kind. -/
def misshape? (shape : Shape) (parts : Parts) : Option Misshape :=
  match shape with
  | .parent => if parts.value.isSome then some .valueOfParent else none
  | .literal =>
    if !parts.children.isEmpty then some .childrenOfLiteral
    else if parts.value.isNone then some .noValueOfLiteral
    else none
  | .leaf =>
    if !parts.children.isEmpty || parts.value.isSome then some .contentOfLeaf else none

/-- The error that a problem with an attribute causes when a node is built. -/
def problemError (kind : String) : AttributeProblem → BuildError
  | .missing name => .missingAttribute kind name
  | .undeclared name => .invalidAttribute kind name .undeclared
  | .invalid name rejection => .invalidAttribute kind name (.rejected rejection)

/-- Builds a node of the kind. -/
def construct (d : KindDef) (parts : Parts) : Except BuildError Node :=
  match misshape? d.shape parts with
  | some misshape => .error (.invalidShape d.kind misshape)
  | none =>
    match d.problems parts.attributes with
    | problem :: _ => .error (problemError d.kind problem)
    | [] =>
      match d.build with
      | some build => build parts
      | none => .error (.notConstructible d.kind)

end KindDef

end WikiDoc
