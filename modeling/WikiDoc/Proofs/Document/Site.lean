import WikiDoc.Document.Node
import WikiDoc.Document.Path

/-!
Sites: the nodes of a tree, each with its path and the node above it.

`at?` follows a path from the top of a tree, and `sites` lists the whole tree in document order. The
two say the same: a site is listed exactly when its path leads to its node (`mem_sites`), and the
listed paths increase strictly in the order of paths (`paths_increasing`), so that each node is listed
once and before everything below it.
-/

namespace WikiDoc

namespace Node

theorem sizeOf_child {node child : Node} (h : child ∈ node.children) : sizeOf child < sizeOf node := by
  cases node with
  | parent tag children =>
    have := List.sizeOf_lt_of_mem (show child ∈ children from h)
    simp only [parent.sizeOf_spec]; omega
  | custom info children =>
    have := List.sizeOf_lt_of_mem (show child ∈ children from h)
    simp only [custom.sizeOf_spec]; omega
  | literal tag value => cases h
  | leaf tag => cases h

/-- Induction over trees: a property that a node has as soon as its children have it. -/
theorem tree_induction {P : Node → Prop}
    (step : ∀ node : Node, (∀ child ∈ node.children, P child) → P node) (node : Node) : P node :=
  step node fun child _ => tree_induction step child
termination_by sizeOf node
decreasing_by exact sizeOf_child (by assumption)

/-- Induction over trees and the lists of their children, as walks over a tree recurse. -/
theorem forest_induction {P : Node → Prop} {Q : List Node → Prop} (nil : Q [])
    (cons : ∀ child rest, P child → Q rest → Q (child :: rest))
    (step : ∀ node : Node, Q node.children → P node) (node : Node) : P node := by
  have hforest : ∀ children : List Node, (∀ child ∈ children, P child) → Q children := by
    intro children h
    induction children with
    | nil => exact nil
    | cons child rest ih =>
      rw [List.forall_mem_cons] at h
      exact cons child rest h.1 (ih h.2)
  induction node using tree_induction with
  | step node ih => exact step node (hforest node.children ih)

/-- The node that child indices lead to. -/
def descend : Node → List Nat → Option Node
  | node, [] => some node
  | node, index :: rest => node.children[index]?.bind (·.descend rest)

/-- The node at a path. -/
def at? (tree : Node) (path : Path) : Option Node := tree.descend path.indices

/-- The node right above a path; there is none above the top. -/
def above? (tree : Node) (path : Path) : Option Node :=
  if path.isRoot then none else tree.at? path.parent

@[simp]
theorem descend_nil (node : Node) : node.descend [] = some node := by rw [descend]

@[simp]
theorem descend_cons (node : Node) (index : Nat) (rest : List Nat) :
    node.descend (index :: rest) = node.children[index]?.bind (·.descend rest) := by rw [descend]

theorem descend_append (node : Node) (a b : List Nat) :
    node.descend (a ++ b) = (node.descend a).bind (·.descend b) := by
  induction a generalizing node with
  | nil => simp
  | cons index rest ih =>
    rw [List.cons_append, descend_cons, descend_cons, Option.bind_assoc]
    exact Option.bind_congr fun child _ => ih child

/-- What is right above a place below a child: the node itself or, further down, a node below it. -/
theorem descend_dropLast {node child : Node} {i : Nat} (hi : node.children[i]? = some child)
    (rest : List Nat) : node.descend (i :: rest).dropLast =
      if rest = [] then some node else child.descend rest.dropLast := by
  rcases rest with _ | ⟨j, rest⟩
  · simp
  · rw [if_neg (List.cons_ne_nil j rest), List.dropLast_cons_cons, descend_cons, hi, Option.bind_some]

theorem at?_root (tree : Node) : tree.at? Path.root = some tree := descend_nil tree

theorem at?_child (tree : Node) (path : Path) (index : Nat) :
    tree.at? (path.child index) = (tree.at? path).bind fun node => node.children[index]? := by
  rw [at?, Path.child, descend_append, at?]
  refine Option.bind_congr fun node _ => ?_
  rw [descend_cons]
  cases node.children[index]? <;> simp

/-- Induction along paths: from the top of a tree down to each of its nodes. -/
theorem at?_induction {tree : Node} {P : Path → Node → Prop} (top : P Path.root tree)
    (step : ∀ path node i child, tree.at? path = some node → P path node →
      node.children[i]? = some child → P (path.child i) child)
    {path : Path} {node : Node} (h : tree.at? path = some node) : P path node := by
  have down : ∀ (rest done : List Nat) (start : Node), tree.at? ⟨done⟩ = some start → P ⟨done⟩ start →
      start.descend rest = some node → P ⟨done ++ rest⟩ node := by
    intro rest
    induction rest with
    | nil =>
      intro done start _ hP hnode
      rw [descend_nil, Option.some.injEq] at hnode
      rwa [List.append_nil, ← hnode]
    | cons i rest ih =>
      intro done start hstart hP hnode
      rw [descend_cons, Option.bind_eq_some_iff] at hnode
      obtain ⟨child, hi, hnode⟩ := hnode
      have hchild : tree.at? (Path.child ⟨done⟩ i) = some child := by
        rw [at?_child, hstart, Option.bind_some, hi]
      have := ih (done ++ [i]) child hchild (step _ _ _ _ hstart hP hi) hnode
      rwa [List.append_assoc, List.singleton_append] at this
  exact down path.indices [] tree (at?_root tree) top h

end Node

/-- A node of a tree, with its path and the node right above it. -/
structure Site where
  path : Path
  node : Node
  above : Option Node

namespace Node

mutual

/-- The sites of the tree at a path, in document order. -/
def sitesFrom : Node → Option Node → Path → List Site
  | .parent tag children, above, path =>
    ⟨path, .parent tag children, above⟩ :: sitesBelow children (.parent tag children) path 0
  | .custom info children, above, path =>
    ⟨path, .custom info children, above⟩ :: sitesBelow children (.custom info children) path 0
  | .literal tag value, above, path => [⟨path, .literal tag value, above⟩]
  | .leaf tag, above, path => [⟨path, .leaf tag, above⟩]

/-- The sites below the node at a path, from its child at `index` on. -/
def sitesBelow : List Node → Node → Path → Nat → List Site
  | [], _, _, _ => []
  | node :: rest, holder, path, index =>
    node.sitesFrom (some holder) (path.child index) ++ sitesBelow rest holder path (index + 1)

end

/-- The sites of a tree, in document order. -/
def sites (tree : Node) : List Site := tree.sitesFrom none Path.root

/-- The paths of a tree, in document order. -/
def paths (tree : Node) : List Path := tree.sites.map Site.path

theorem sitesFrom_eq (node : Node) (above : Option Node) (path : Path) :
    node.sitesFrom above path = ⟨path, node, above⟩ :: sitesBelow node.children node path 0 := by
  cases node <;> simp [sitesFrom, sitesBelow, children]

theorem mem_sitesBelow (children : List Node) (holder : Node) (path : Path) (index : Nat) (s : Site) :
    s ∈ sitesBelow children holder path index ↔ ∃ (i : Nat) (child : Node),
      children[i]? = some child ∧ s ∈ child.sitesFrom (some holder) (path.child (index + i)) := by
  induction children generalizing index with
  | nil => simp [sitesBelow]
  | cons head rest ih =>
    rw [sitesBelow, List.mem_append, ih]
    constructor
    · rintro (hs | ⟨i, child, hi, hs⟩)
      · exact ⟨0, head, rfl, hs⟩
      · exact ⟨i + 1, child, hi, by rwa [Nat.add_assoc, Nat.add_comm 1 i] at hs⟩
    · rintro ⟨i, child, hi, hs⟩
      rcases i with _ | i
      · rw [List.getElem?_cons_zero, Option.some.injEq] at hi
        exact Or.inl (hi ▸ hs)
      · refine Or.inr ⟨i, child, hi, ?_⟩
        rwa [Nat.add_assoc, Nat.add_comm 1 i]

/-- The sites from a path on are the places that further indices lead to. -/
theorem mem_sitesFrom (node : Node) (above : Option Node) (path : Path) (s : Site) :
    s ∈ node.sitesFrom above path ↔ ∃ rest, s.path.indices = path.indices ++ rest ∧
      node.descend rest = some s.node ∧
      s.above = if rest = [] then above else node.descend rest.dropLast := by
  induction node using tree_induction generalizing above path with
  | step node ih =>
    rw [sitesFrom_eq, List.mem_cons, mem_sitesBelow]
    constructor
    · rintro (rfl | ⟨i, child, hi, hs⟩)
      · exact ⟨[], by simp, by simp, by simp⟩
      · obtain ⟨rest, hpath, hnode, habove⟩ := (ih child (List.mem_of_getElem? hi) _ _).1 hs
        refine ⟨i :: rest, ?_, ?_, ?_⟩
        · rw [hpath, Path.child, Nat.zero_add, List.append_assoc, List.singleton_append]
        · rw [descend_cons, hi, Option.bind_some, hnode]
        · rw [habove, if_neg (List.cons_ne_nil i rest), descend_dropLast hi]
    · rintro ⟨rest, hpath, hnode, habove⟩
      rcases rest with _ | ⟨i, rest⟩
      · obtain ⟨⟨indices⟩, snode, sabove⟩ := s
        simp only [List.append_nil, descend_nil, Option.some.injEq, if_true] at hpath hnode habove
        subst hpath hnode habove
        exact Or.inl rfl
      · rw [descend_cons, Option.bind_eq_some_iff] at hnode
        obtain ⟨child, hi, hnode⟩ := hnode
        refine Or.inr ⟨i, child, hi, (ih child (List.mem_of_getElem? hi) _ _).2 ⟨rest, ?_, hnode, ?_⟩⟩
        · rw [hpath, Path.child, Nat.zero_add, List.append_assoc, List.singleton_append]
        · rw [habove, if_neg (List.cons_ne_nil i rest), descend_dropLast hi]

/-- A site is listed exactly when its path leads to its node, below the node it names. -/
theorem mem_sites (tree : Node) (s : Site) :
    s ∈ tree.sites ↔ tree.at? s.path = some s.node ∧ s.above = tree.above? s.path := by
  rw [sites, mem_sitesFrom]
  simp only [Path.root, List.nil_append, exists_eq_left']
  simp only [at?, above?, Path.isRoot, List.isEmpty_iff, Path.parent]

/-- A path is listed exactly when it leads to a node. -/
theorem mem_paths (tree : Node) (path : Path) : path ∈ tree.paths ↔ (tree.at? path).isSome := by
  rw [paths, List.mem_map, Option.isSome_iff_exists]
  constructor
  · rintro ⟨s, hs, rfl⟩
    exact ⟨s.node, ((mem_sites tree s).1 hs).1⟩
  · rintro ⟨node, hnode⟩
    exact ⟨⟨path, node, tree.above? path⟩, (mem_sites tree _).2 ⟨hnode, rfl⟩, rfl⟩

/-- The kinds of the nodes of a tree, in document order. -/
def kinds (tree : Node) : List String := tree.sites.map fun s => s.node.kind

/-- A kind is listed exactly when a path leads to a node of it. -/
theorem mem_kinds (tree : Node) (kind : String) :
    kind ∈ tree.kinds ↔ ∃ path node, tree.at? path = some node ∧ node.kind = kind := by
  rw [kinds, List.mem_map]
  constructor
  · rintro ⟨s, hs, rfl⟩
    exact ⟨s.path, s.node, ((mem_sites tree s).1 hs).1, rfl⟩
  · rintro ⟨path, node, hnode, rfl⟩
    exact ⟨⟨path, node, tree.above? path⟩, (mem_sites tree _).2 ⟨hnode, rfl⟩, rfl⟩

/-- The node above a site is a node of the tree as well. -/
theorem kind_above_mem_kinds {tree : Node} {s : Site} (hs : s ∈ tree.sites) {holder : Node}
    (habove : s.above = some holder) : holder.kind ∈ tree.kinds := by
  rw [((mem_sites tree s).1 hs).2, above?] at habove
  split at habove
  · cases habove
  · exact (mem_kinds tree _).2 ⟨_, holder, habove, rfl⟩

end Node

/-! ### The order of paths -/

theorem Path.compareIndices_append (p a b : List Nat) :
    compareIndices (p ++ a) (p ++ b) = compareIndices a b := by
  induction p with
  | nil => rfl
  | cons i p ih => rw [List.cons_append, List.cons_append, compareIndices, ih]; simp

/-- One path leads on from the other. -/
def Path.Above (p q : Path) : Prop := ∃ i rest, q.indices = p.indices ++ i :: rest

theorem Path.child_inj {p q : Path} {i j : Nat} (h : p.child i = q.child j) : p = q ∧ i = j := by
  obtain ⟨hp, hi⟩ := List.append_inj' (congrArg Path.indices h) rfl
  exact ⟨congrArg Path.mk hp, List.singleton_inj.1 hi⟩

/-- Every place but the top is that of a child. -/
theorem Path.eq_child {q : Path} (h : q ≠ Path.root) : ∃ (m : Path) (i : Nat), q = m.child i := by
  obtain ⟨indices⟩ := q
  rcases List.eq_nil_or_concat indices with rfl | ⟨front, i, rfl⟩
  · exact absurd rfl h
  · exact ⟨⟨front⟩, i, congrArg Path.mk (List.concat_eq_append ..)⟩

theorem Path.Above.child {p q : Path} (h : p.Above q) (j : Nat) : p.Above (q.child j) := by
  obtain ⟨i, rest, hq⟩ := h
  exact ⟨i, rest ++ [j], by rw [Path.child, hq, List.append_assoc, List.cons_append]⟩

/-- The last step to a place below another: it starts there or below it. -/
theorem Path.Above.last {p q : Path} (h : p.Above q) :
    ∃ m i, q = m.child i ∧ (m = p ∨ p.Above m) := by
  obtain ⟨i, rest, hq⟩ := h
  rcases List.eq_nil_or_concat rest with rfl | ⟨front, j, rfl⟩
  · exact ⟨p, i, congrArg Path.mk hq, Or.inl rfl⟩
  · refine ⟨⟨p.indices ++ i :: front⟩, j, congrArg Path.mk ?_, Or.inr ⟨i, front, rfl⟩⟩
    rw [hq, List.concat_eq_append, List.append_assoc, List.cons_append]

/-- A node comes before everything below it. -/
theorem Path.compare_below {p q : Path} (h : p.Above q) : compare p q = .lt := by
  obtain ⟨i, rest, hq⟩ := h
  change compareIndices p.indices q.indices = .lt
  rw [hq, ← List.append_nil p.indices, List.append_assoc, List.nil_append, compareIndices_append]
  rfl

/-- What is below an earlier sibling comes before what is below a later one. -/
theorem Path.compare_siblings {p q : Path} {shared a b : List Nat} {i j : Nat} (hij : i < j)
    (hp : p.indices = shared ++ i :: a) (hq : q.indices = shared ++ j :: b) : compare p q = .lt := by
  change compareIndices p.indices q.indices = .lt
  rw [hp, hq, compareIndices_append, compareIndices, Nat.compare_eq_lt.2 hij]
  rfl

namespace Node

theorem path_of_mem_sitesBelow {children : List Node} {holder : Node} {path : Path} {index : Nat}
    {s : Site} (hs : s ∈ sitesBelow children holder path index) :
    ∃ i rest, index ≤ i ∧ s.path.indices = path.indices ++ i :: rest := by
  obtain ⟨i, child, _, hs⟩ := (mem_sitesBelow children holder path index s).1 hs
  obtain ⟨rest, hpath, _, _⟩ := (mem_sitesFrom child _ _ s).1 hs
  refine ⟨index + i, rest, Nat.le_add_right index i, ?_⟩
  rw [hpath, Path.child, List.append_assoc, List.singleton_append]

theorem sitesFrom_increasing (node : Node) (above : Option Node) (path : Path) :
    (node.sitesFrom above path).Pairwise fun s t => compare s.path t.path = .lt := by
  induction node using forest_induction (Q := fun children => ∀ holder path index,
      (sitesBelow children holder path index).Pairwise fun s t => compare s.path t.path = .lt)
    generalizing above path with
  | nil => simp [sitesBelow]
  | cons child rest ihchild ihrest holder path index =>
    rw [sitesBelow, List.pairwise_append]
    refine ⟨ihchild _ _, ihrest holder path (index + 1), ?_⟩
    intro s hs t ht
    obtain ⟨a, hpath, _, _⟩ := (mem_sitesFrom child _ _ s).1 hs
    obtain ⟨i, b, hi, hpath'⟩ := path_of_mem_sitesBelow ht
    rw [Path.child, List.append_assoc, List.singleton_append] at hpath
    exact Path.compare_siblings hi hpath hpath'
  | step node ihchildren =>
    rw [sitesFrom_eq, List.pairwise_cons]
    refine ⟨?_, ihchildren node path 0⟩
    intro s hs
    obtain ⟨i, rest, _, hpath⟩ := path_of_mem_sitesBelow hs
    exact Path.compare_below ⟨i, rest, hpath⟩

/-- The paths of a tree increase strictly. -/
theorem paths_increasing (tree : Node) : tree.paths.Pairwise fun p q => compare p q = .lt := by
  rw [paths, List.pairwise_map]
  exact sitesFrom_increasing tree none Path.root

end Node

end WikiDoc
