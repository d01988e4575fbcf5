import WikiDoc.Attribute.Constraint
import WikiDoc.Attribute.Map

/-!
Rules for the attributes of a node kind.

A rule names an attribute, says whether it must be there and constrains its value. Checking a map of
attributes against the rules of a kind lists every problem: first those of the rules, in the order of
the rules, then the attributes that no rule declares, in the order of the map.
-/

namespace WikiDoc

/-- The rule for one named attribute. -/
structure AttributeRule where
  name : String
  required : Bool
  constraint : Constraint

namespace AttributeRule

/-- An attribute that must be there. -/
def needed (name : String) (constraint : Constraint) : AttributeRule := ⟨name, true, constraint⟩

/-- An attribute that may be left out. -/
def optional (name : String) (constraint : Constraint) : AttributeRule := ⟨name, false, constraint⟩

/-- Whether two rules say the same about the same attribute. -/
def sameAs (a b : AttributeRule) : Bool :=
  a.name == b.name && a.required == b.required && a.constraint.sameAs b.constraint

end AttributeRule

/-- Why a map of attributes does not satisfy the rules. -/
inductive AttributeProblem where
  /-- A required attribute is not there. -/
  | missing (name : String)
  /-- No rule declares the attribute. -/
  | undeclared (name : String)
  /-- The value breaks the constraint of its rule. -/
  | invalid (name : String) (rejection : Rejection)
  deriving DecidableEq

namespace AttributeProblem

/-- The attribute that the problem is about. -/
def attributeName : AttributeProblem → String
  | .missing name | .undeclared name | .invalid name _ => name

/-- The wording of the problem. -/
def reason : AttributeProblem → String
  | .missing _ => "required attribute is missing"
  | .undeclared _ => "attribute is not declared by the node kind"
  | .invalid _ rejection => rejection.message

end AttributeProblem

/-- The problem, if any, that a single rule has with the attributes. -/
def AttributeRule.problem? (rule : AttributeRule) (attrs : Attributes) : Option AttributeProblem :=
  match attrs.get? rule.name with
  | some value => (rule.constraint.rejection? value).map (.invalid rule.name)
  | none => if rule.required then some (.missing rule.name) else none

/-- The attributes that no rule declares, in the order of the map. -/
def undeclaredNames (rules : List AttributeRule) (attrs : Attributes) : List String :=
  attrs.keys.filter fun name => !rules.any fun rule => rule.name == name

/-- Every problem of the attributes with the rules; an open set of rules admits any further ones. -/
def attributeProblems (rules : List AttributeRule) (isOpen : Bool) (attrs : Attributes) :
    List AttributeProblem :=
  rules.filterMap (·.problem? attrs) ++
    if isOpen then [] else (undeclaredNames rules attrs).map .undeclared

end WikiDoc
