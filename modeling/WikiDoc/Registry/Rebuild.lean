import WikiDoc.Document.Path
import WikiDoc.Registry.Basic

/-!
Rebuilding a tree from the parts of its nodes.

Every node is taken apart and built again by the registry, children before their parent and from left
to right. The first node that cannot be built ends the work; its path and the error are the answer.
-/

namespace WikiDoc.Registry

/-- Builds a node again from its parts, with children already rebuilt. -/
def rebuildNode (r : Registry) (node : Node) (path : Path) (children : List Node) :
    Except (Path × BuildError) Node :=
  (r.construct node.kind { node.parts with children }).mapError fun error => (path, error)

mutual

/-- Rebuilds the tree at a path. -/
def rebuildTree (r : Registry) : Node → Path → Except (Path × BuildError) Node
  | .parent tag children, path =>
    r.rebuildForest children path 0 >>= r.rebuildNode (.parent tag children) path
  | .custom info children, path =>
    r.rebuildForest children path 0 >>= r.rebuildNode (.custom info children) path
  | .literal tag value, path => r.rebuildNode (.literal tag value) path []
  | .leaf tag, path => r.rebuildNode (.leaf tag) path []

/-- Rebuilds the children of the node at a path, from the one at `index` on. -/
def rebuildForest (r : Registry) : List Node → Path → Nat → Except (Path × BuildError) (List Node)
  | [], _, _ => .ok []
  | node :: rest, path, index => do
    let rebuilt ← r.rebuildTree node (path.child index)
    let others ← r.rebuildForest rest path (index + 1)
    return rebuilt :: others

end

/-- Rebuilds a tree from its top. -/
def rebuild (r : Registry) (tree : Node) : Except (Path × BuildError) Node :=
  r.rebuildTree tree Path.root

end WikiDoc.Registry
