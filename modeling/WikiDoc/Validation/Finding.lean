import WikiDoc.Attribute.Rule
import WikiDoc.Document.Path
import WikiDoc.Document.Shape
import WikiDoc.Kind.Category

/-!
Findings: what is wrong with a document, and where.
-/

namespace WikiDoc

/-- What is wrong at a node. -/
inductive Violation where
  /-- The kind of a child is not legal in the category that its parent requires. -/
  | misplaced (expected : Category) (actual : String)
  /-- The children or the value contradict the shape of the kind. -/
  | shape (expected actual : Shape)
  /-- An attribute is missing, undeclared or breaks its constraint. -/
  | badAttribute (problem : AttributeProblem)
  /-- A reference has no definition. -/
  | unresolved (identifier : String)
  /-- A reference has several definitions. -/
  | ambiguous (identifier : String) (count : Nat)
  deriving DecidableEq

/-- The wording of a violation. -/
def Violation.message : Violation → String
  | .misplaced expected actual =>
    "`" ++ actual ++ "` is not allowed in " ++ expected.name ++ " content"
  | .shape expected actual =>
    "expected a " ++ expected.name ++ " node, found a " ++ actual.name ++ " node"
  | .badAttribute problem => "attribute `" ++ problem.attributeName ++ "`: " ++ problem.reason
  | .unresolved identifier => "reference `" ++ identifier ++ "` has no definition"
  | .ambiguous identifier count =>
    "reference `" ++ identifier ++ "` matches " ++ count.repr ++ " definitions"

/-- A violation at a node. -/
structure Finding where
  path : Path
  violation : Violation
  deriving DecidableEq

/-- A finding as messages show it. -/
def Finding.display (finding : Finding) : String :=
  finding.path.display ++ ": " ++ finding.violation.message

end WikiDoc
