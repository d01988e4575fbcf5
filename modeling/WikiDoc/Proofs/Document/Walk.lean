import WikiDoc.Document.Visitor
import WikiDoc.Proofs.Document.Site

/-!
A walk as a plain sequence of steps.

A visitor that takes over no node visits a tree by taking one step per site, in document order
(`visit_eq_sequence`): the callback for every node and then the one for its kind. Each step is told the path
of its own site, though all share one path that goes down and up with the visit (`atChild_atPath`), which
any visit leaves where it was (`keepsPath_visit`). When the steps only change the state, the walk folds over
the sites (`sequence_update`).
-/

namespace WikiDoc

theorem Path.parent_child (path : Path) (index : Nat) : (path.child index).parent = path := by
  rw [child, parent, List.dropLast_concat]

namespace Step

variable {σ ε : Type}

/-- Takes steps one after the other, up to the first that fails. -/
def sequence (steps : List (Step σ ε)) : Step σ ε := steps.foldr andThen skip

theorem skip_andThen (step : Step σ ε) : andThen skip step = step := rfl

theorem andThen_skip (step : Step σ ε) : andThen step skip = step := by
  funext state
  rw [andThen]
  rcases step state with ⟨next, _ | error⟩ <;> rfl

theorem andThen_assoc (a b c : Step σ ε) : andThen (andThen a b) c = andThen a (andThen b c) := by
  funext state
  rw [andThen, andThen, andThen]
  rcases a state with ⟨state', _ | error⟩ <;> rfl

theorem update_andThen (f : σ → σ) (step : Step σ ε) (state : σ) :
    andThen (update f) step state = step (f state) := rfl

/-- A step that is told the path of a child is told it through the path that is carried along, which is
afterwards where it was before. -/
theorem atChild_atPath (index : Nat) (step : Path → Step σ ε) :
    atChild index (atPath step) = atPath fun path => step (path.child index) := by
  funext ⟨path, state⟩
  simp only [atChild, atPath, Path.parent_child]

theorem atPath_andThen_atPath (first second : Path → Step σ ε) :
    andThen (atPath first) (atPath second) = atPath fun path => andThen (first path) (second path) := by
  funext ⟨path, state⟩
  simp only [andThen, atPath]
  rcases first path state with ⟨state', _ | error⟩ <;> rfl

theorem sequence_cons (step : Step σ ε) (steps : List (Step σ ε)) :
    sequence (step :: steps) = andThen step (sequence steps) := rfl

theorem sequence_concat : ∀ a b : List (Step σ ε),
    sequence (a ++ b) = andThen (sequence a) (sequence b)
  | [], b => (skip_andThen (sequence b)).symm
  | step :: a, b => by
    rw [List.cons_append, sequence_cons, sequence_cons, sequence_concat a b, andThen_assoc]

/-- Steps that only change the state fold over it. -/
theorem sequence_update {β : Type} (f : σ → β → σ) : ∀ (items : List β) (state : σ),
    sequence (items.map fun item => (update (f · item) : Step σ ε)) state =
      (items.foldl f state, none)
  | [], state => rfl
  | item :: items, state => by
    rw [List.map_cons, sequence_cons, update_andThen, sequence_update f items, List.foldl_cons]

/-- The path is afterwards where it was before, whether the step failed or not. -/
def KeepsPath (step : Step (Path × σ) ε) : Prop := ∀ path state, (step (path, state)).1.1 = path

theorem keepsPath_atPath (step : Path → Step σ ε) : KeepsPath (atPath step) := fun _ _ => rfl

theorem KeepsPath.andThen {first second : Step (Path × σ) ε} (hfirst : KeepsPath first)
    (hsecond : KeepsPath second) : KeepsPath (andThen first second) := by
  intro path state
  have hpath := hfirst path state
  rw [Step.andThen]
  rcases hrun : first (path, state) with ⟨⟨path', state'⟩, _ | error⟩
  · rw [hrun] at hpath
    exact (hsecond path' state').trans hpath
  · rwa [hrun] at hpath

theorem KeepsPath.atChild {step : Step (Path × σ) ε} (h : KeepsPath step) (index : Nat) :
    KeepsPath (atChild index step) := by
  intro path state
  have hback : (step (path.child index, state)).1.1.parent = path := by
    rw [h, Path.parent_child]
  exact hback

end Step

namespace Visitor

variable {σ ε : Type} (visitor : Visitor σ ε)

/-- A visit leaves the path where it was, whichever nodes the visitor takes over and whether or not one of
its steps fails. -/
theorem keepsPath_visit (node : Node) : Step.KeepsPath (visitor.visit node) := by
  have haround : ∀ (node : Node) {below : Step (Path × σ) ε}, Step.KeepsPath below →
      Step.KeepsPath (visitor.around node below) := by
    intro node below hbelow path state
    rw [around]
    split
    · rfl
    · exact (Step.keepsPath_atPath _).andThen ((Step.keepsPath_atPath _).andThen hbelow) path state
  have hskip : Step.KeepsPath (Step.skip : Step (Path × σ) ε) := fun _ _ => rfl
  induction node using Node.forest_induction (Q := fun children => ∀ index,
      Step.KeepsPath (visitor.visitForest children index)) with
  | nil index => rw [visitForest]; exact hskip
  | cons child rest ihchild ihrest index =>
    rw [visitForest]
    exact (ihchild.atChild index).andThen (ihrest (index + 1))
  | step node ihchildren =>
    cases node with
    | parent tag children => rw [visit]; exact haround _ (ihchildren 0)
    | custom info children => rw [visit]; exact haround _ (ihchildren 0)
    | literal tag value => rw [visit]; exact haround _ hskip
    | leaf tag => rw [visit]; exact haround _ hskip

/-- The step of a visitor at a site. -/
def stepAt (s : Site) : Step σ ε :=
  Step.andThen (visitor.enter s.node s.path) (visitor.callback s.path s.node)

/-- Visiting a node is its own step and then the visit of its children. -/
theorem visit_eq (htake : ∀ node path, visitor.takeOver node path = none) (node : Node)
    (above : Option Node) : visitor.visit node =
      Step.andThen (Step.atPath fun path => visitor.stepAt ⟨path, node, above⟩)
        (visitor.visitForest node.children 0) := by
  have haround : ∀ below, visitor.around node below =
      Step.andThen (Step.atPath fun path => visitor.stepAt ⟨path, node, above⟩) below := by
    intro below
    funext ⟨path, state⟩
    simp only [around, htake, stepAt]
    rw [← Step.andThen_assoc, Step.atPath_andThen_atPath]
  cases node with
  | parent tag children => rw [visit, haround]; rfl
  | custom info children => rw [visit, haround]; rfl
  | literal tag value => rw [visit, haround, Node.children, visitForest]
  | leaf tag => rw [visit, haround, Node.children, visitForest]

/-- The visit of a tree takes the steps of its sites, in document order. -/
theorem visit_eq_sequence (htake : ∀ node path, visitor.takeOver node path = none) (node : Node)
    (above : Option Node) : visitor.visit node =
      Step.atPath fun path => Step.sequence ((node.sitesFrom above path).map visitor.stepAt) := by
  induction node using Node.forest_induction (Q := fun children => ∀ holder index,
      visitor.visitForest children index = Step.atPath fun path =>
        Step.sequence ((Node.sitesBelow children holder path index).map visitor.stepAt))
    generalizing above with
  | nil => simp only [visitForest, Node.sitesBelow]; rfl
  | cons child rest ihchild ihrest holder index =>
    rw [visitForest, ihchild (some holder), Step.atChild_atPath, ihrest holder (index + 1),
      Step.atPath_andThen_atPath]
    simp only [Node.sitesBelow, List.map_append, Step.sequence_concat]
  | step node ihchildren =>
    rw [visitor.visit_eq htake node above, ihchildren node 0, Step.atPath_andThen_atPath]
    simp only [Node.sitesFrom_eq, List.map_cons, Step.sequence_cons]

/-- The walk over a tree takes the steps of its sites, in document order. -/
theorem walk_eq (htake : ∀ node path, visitor.takeOver node path = none) (tree : Node) :
    visitor.walk tree = Step.sequence (tree.sites.map visitor.stepAt) := by
  funext state
  rw [walk, visitor.visit_eq_sequence htake tree none]
  rfl

end Visitor

end WikiDoc
