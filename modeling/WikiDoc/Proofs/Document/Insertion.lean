import WikiDoc.Proofs.Document.Site

/-!
Inserting a tree among the children of a node.

`insertAt` changes the children of one node of a tree and nothing else: the node keeps its kind, its
attributes and its value, and so does every node above it. The path of the node leads to it as before
(`at?_insertAt`).
-/

namespace WikiDoc.Node

/-- The node with other children; one that cannot have any stays as it is. -/
def withChildren : Node → List Node → Node
  | .parent tag _, children => .parent tag children
  | .custom info _, children => .custom info children
  | .literal tag value, _ => .literal tag value
  | .leaf tag, _ => .leaf tag

/-- The tree with the node that child indices lead to changed. -/
def modifyAt (change : Node → Node) : List Nat → Node → Node
  | [], node => change node
  | index :: rest, node => node.withChildren (node.children.modify index (modifyAt change rest))

/-- The node with one more child, at an index. -/
def insertChild (node : Node) (index : Nat) (inserted : Node) : Node :=
  node.withChildren (node.children.insertIdx index inserted)

/-- The tree with one more child, at an index, of the node at a path. -/
def insertAt (tree : Node) (path : Path) (index : Nat) (inserted : Node) : Node :=
  modifyAt (fun node => node.insertChild index inserted) path.indices tree

@[simp]
theorem kind_withChildren (node : Node) (children : List Node) :
    (node.withChildren children).kind = node.kind := by cases node <;> rfl

@[simp]
theorem attributes_withChildren (node : Node) (children : List Node) :
    (node.withChildren children).attributes = node.attributes := by cases node <;> rfl

@[simp]
theorem value_withChildren (node : Node) (children : List Node) :
    (node.withChildren children).value = node.value := by cases node <;> rfl

theorem observedShape_of_children {node : Node} (h : node.children ≠ []) :
    node.observedShape = .parent := by simp [observedShape, h]

/-- A node that is seen as a parent takes any children. -/
theorem children_withChildren {node : Node} (h : node.observedShape = .parent) (children : List Node) :
    (node.withChildren children).children = children := by
  cases node with
  | parent tag _ => rfl
  | custom info _ => rfl
  | literal tag value => simp [observedShape, Node.children, Node.value] at h
  | leaf tag => simp [observedShape, Node.children, Node.value, shape] at h

/-- Changing a child changes no more than the child. -/
theorem children_withChildren_modify (node : Node) (index : Nat) (change : Node → Node) :
    (node.withChildren (node.children.modify index change)).children =
      node.children.modify index change := by
  cases node with
  | parent tag _ => rfl
  | custom info _ => rfl
  | literal tag value => simp [withChildren, children]
  | leaf tag => simp [withChildren, children]

/-- The place of the changed node holds the changed node. -/
theorem descend_modifyAt (change : Node → Node) (indices : List Nat) (tree : Node) :
    (modifyAt change indices tree).descend indices = (tree.descend indices).map change := by
  induction indices generalizing tree with
  | nil => simp [modifyAt]
  | cons index rest ih =>
    rw [modifyAt, descend_cons, descend_cons, children_withChildren_modify, List.getElem?_modify_eq]
    cases tree.children[index]? with
    | none => rfl
    | some child => exact ih child

theorem at?_insertAt {tree node : Node} {path : Path} (h : tree.at? path = some node) (index : Nat)
    (inserted : Node) :
    (tree.insertAt path index inserted).at? path = some (node.insertChild index inserted) := by
  rw [at?, insertAt, descend_modifyAt, ← at?, h, Option.map_some]

end WikiDoc.Node
