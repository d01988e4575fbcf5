import WikiDoc.Document.Node

/-!
Equality of trees.

Two trees are the same when they agree node by node. The options of a gallery and the attributes of
an extension's node are compared as maps, so their order does not count; all other data must be equal.
-/

namespace WikiDoc

/-- Whether two tags are the same, gallery options in any order. -/
def ParentTag.same : ParentTag → ParentTag → Bool
  | .gallery a, .gallery b => a.same b
  | a, b => decide (a = b)

/-- Whether two extension nodes report the same of themselves, attributes in any order. -/
def Custom.same (a b : Custom) : Bool :=
  a.origin == b.origin && a.kind == b.kind && decide (a.shape = b.shape) &&
    a.attributes.same b.attributes && a.value == b.value

namespace Node

mutual

/-- Whether two trees are the same. -/
def same : Node → Node → Bool
  | .parent a as, .parent b bs => a.same b && sameForest as bs
  | .literal a v, .literal b w => decide (a = b) && v == w
  | .leaf a, .leaf b => decide (a = b)
  | .custom a as, .custom b bs => a.same b && sameForest as bs
  | _, _ => false

/-- Whether two lists of trees are the same, tree by tree. -/
def sameForest : List Node → List Node → Bool
  | [], [] => true
  | a :: as, b :: bs => a.same b && sameForest as bs
  | _, _ => false

end

end Node

/-- Whether two sets of parts are the same, attributes in any order. -/
def Parts.same (a b : Parts) : Bool :=
  a.attributes.same b.attributes && Node.sameForest a.children b.children && a.value == b.value

end WikiDoc
