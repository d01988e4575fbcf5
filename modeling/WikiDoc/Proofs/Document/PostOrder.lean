import WikiDoc.Proofs.Document.Site

/-!
The nodes of a tree, children before their parents.

`postorder` lists every node behind all that is below it, and siblings from left to right. It lists the
same places as the document order does (`mem_postorder`).
-/

namespace WikiDoc.Node

mutual

/-- The nodes of the tree at a path with their paths, each behind all that is below it. -/
def postorderFrom : Node → Path → List (Path × Node)
  | .parent tag children, path => postorderBelow children path 0 ++ [(path, .parent tag children)]
  | .custom info children, path => postorderBelow children path 0 ++ [(path, .custom info children)]
  | .literal tag value, path => [(path, .literal tag value)]
  | .leaf tag, path => [(path, .leaf tag)]

/-- The same for what is below the node at a path, from its child at `index` on. -/
def postorderBelow : List Node → Path → Nat → List (Path × Node)
  | [], _, _ => []
  | node :: rest, path, index =>
    node.postorderFrom (path.child index) ++ postorderBelow rest path (index + 1)

end

/-- The nodes of a tree with their paths, each behind all that is below it. -/
def postorder (tree : Node) : List (Path × Node) := tree.postorderFrom Path.root

theorem postorderFrom_eq (node : Node) (path : Path) :
    node.postorderFrom path = postorderBelow node.children path 0 ++ [(path, node)] := by
  cases node <;> simp [postorderFrom, postorderBelow, children]

/-- The two orders list the same places. -/
theorem postorderFrom_perm (node : Node) (above : Option Node) (path : Path) :
    (node.postorderFrom path).Perm ((node.sitesFrom above path).map fun s => (s.path, s.node)) := by
  induction node using forest_induction (Q := fun children => ∀ holder path index,
      (postorderBelow children path index).Perm
        ((sitesBelow children holder path index).map fun s => (s.path, s.node)))
    generalizing above path with
  | nil => rw [postorderBelow, sitesBelow]; exact .nil
  | cons child rest ihchild ihrest holder path index =>
    rw [postorderBelow, sitesBelow, List.map_append]
    exact (ihchild _ _).append (ihrest holder path (index + 1))
  | step node ihchildren =>
    rw [postorderFrom_eq, sitesFrom_eq, List.map_cons]
    exact (List.perm_append_singleton _ _).trans ((ihchildren node path 0).cons _)

/-- A node is listed at a path exactly when the path leads to it. -/
theorem mem_postorder (tree : Node) (path : Path) (node : Node) :
    (path, node) ∈ tree.postorder ↔ tree.at? path = some node := by
  rw [postorder, (postorderFrom_perm tree none Path.root).mem_iff, List.mem_map]
  constructor
  · rintro ⟨s, hs, hpair⟩
    cases hpair
    exact ((mem_sites tree s).1 hs).1
  · intro hnode
    exact ⟨⟨path, node, tree.above? path⟩, (mem_sites tree _).2 ⟨hnode, rfl⟩, rfl⟩

end WikiDoc.Node
