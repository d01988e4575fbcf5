/-!
Paths: where a node stands in a tree, as the child indices that lead to it from the top.

Paths are ordered lexicographically, so a node comes before its descendants and these come before its
later siblings.
-/

namespace WikiDoc

/-- The child indices that lead from the top of a tree to one of its nodes. -/
structure Path where
  indices : List Nat
  deriving DecidableEq

namespace Path

/-- The path of the top node. -/
def root : Path := ⟨[]⟩

/-- Whether this is the path of the top node. -/
def isRoot (path : Path) : Bool := path.indices.isEmpty

/-- The path of a child. -/
def child (path : Path) (index : Nat) : Path := ⟨path.indices ++ [index]⟩

/-- The path of the parent; the top node has none and stays where it is. -/
def parent (path : Path) : Path := ⟨path.indices.dropLast⟩

/-- The place of the node among its siblings; the top node has none. -/
def last? (path : Path) : Option Nat := path.indices.getLast?

/-- Compares two lists of indices lexicographically. -/
def compareIndices : List Nat → List Nat → Ordering
  | [], [] => .eq
  | [], _ :: _ => .lt
  | _ :: _, [] => .gt
  | i :: rest, j :: rest' => (compare i j).then (compareIndices rest rest')

instance : Ord Path := ⟨fun a b => compareIndices a.indices b.indices⟩

/-- A path as messages show it: a slash alone for the top node, else one before each index. -/
def display (path : Path) : String :=
  match path.indices with
  | [] => "/"
  | indices => String.join (indices.map fun index => "/" ++ index.repr)

end Path

end WikiDoc
