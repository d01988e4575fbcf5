import Mathlib.Data.List.Forall2
import WikiDoc.Document.Equality
import WikiDoc.Proofs.Attribute.Sameness
import WikiDoc.Proofs.Document.Site

/-!
What trees that are the same have in common.

Nodes that are the same report the same of themselves, but for the order of their attributes
(`Node.Like`). So the sites of two such trees are paired off in document order, at the same paths and
below nodes of the same kinds (`Node.like_sites`).
-/

namespace WikiDoc

/-- Tags that are the same are equal, or those of galleries with the same options. -/
theorem ParentTag.same_cases {a b : ParentTag} (h : a.same b = true) : a = b ∨
    ∃ options options', a = .gallery options ∧ b = .gallery options' ∧ options.same options' = true := by
  unfold ParentTag.same at h
  split at h
  · exact Or.inr ⟨_, _, rfl, rfl, h⟩
  · exact Or.inl (of_decide_eq_true h)

@[simp]
theorem ParentTag.same_refl (tag : ParentTag) : tag.same tag = true := by
  cases tag <;> simp [ParentTag.same]

namespace Node

/-- The ways in which two nodes can be the same, down to their children. -/
inductive Paired : Node → Node → Prop
  | parent (tag : ParentTag) {as bs : List Node} (below : sameForest as bs = true) :
    Paired (.parent tag as) (.parent tag bs)
  | gallery {options options' : OrderedMap String String} {as bs : List Node}
    (own : options.same options' = true) (below : sameForest as bs = true) :
    Paired (.parent (.gallery options) as) (.parent (.gallery options') bs)
  | literal (tag : LiteralTag) (value : String) : Paired (.literal tag value) (.literal tag value)
  | leaf (tag : LeafTag) : Paired (.leaf tag) (.leaf tag)
  | custom {info info' : Custom} {as bs : List Node} (own : info.same info' = true)
    (below : sameForest as bs = true) : Paired (.custom info as) (.custom info' bs)

theorem paired_of_same {a b : Node} (h : a.same b = true) : Paired a b := by
  unfold same at h
  split at h
  · rw [Bool.and_eq_true] at h
    rcases ParentTag.same_cases h.1 with rfl | ⟨options, options', rfl, rfl, hoptions⟩
    · exact .parent _ h.2
    · exact .gallery hoptions h.2
  · simp only [Bool.and_eq_true, decide_eq_true_iff, beq_iff_eq] at h
    obtain ⟨rfl, rfl⟩ := h
    exact .literal _ _
  · obtain rfl := of_decide_eq_true h
    exact .leaf _
  · rw [Bool.and_eq_true] at h
    exact .custom h.1 h.2
  · cases h

/-- Two nodes report the same of themselves, attributes in any order and children tree by tree. -/
structure Like (a b : Node) : Prop where
  kind : a.kind = b.kind
  shape : a.shape = b.shape
  value : a.value = b.value
  attributes : a.attributes.same b.attributes = true
  children : sameForest a.children b.children = true

theorem like_of_same {a b : Node} (h : a.same b = true) : a.Like b := by
  cases paired_of_same h with
  | parent tag below => exact ⟨rfl, rfl, rfl, OrderedMap.same_refl _, below⟩
  | gallery own below => exact ⟨rfl, rfl, rfl, OrderedMap.same_mapValues own _, below⟩
  | literal tag value => exact ⟨rfl, rfl, rfl, OrderedMap.same_refl _, rfl⟩
  | leaf tag => exact ⟨rfl, rfl, rfl, OrderedMap.same_refl _, rfl⟩
  | custom own below =>
    simp only [Custom.same, Bool.and_eq_true, decide_eq_true_iff, beq_iff_eq] at own
    obtain ⟨⟨⟨⟨-, hkind⟩, hshape⟩, hattributes⟩, hvalue⟩ := own
    exact ⟨hkind, hshape, hvalue, hattributes, below⟩

theorem isEmpty_of_sameForest {as bs : List Node} (h : sameForest as bs = true) :
    as.isEmpty = bs.isEmpty := by
  cases as <;> cases bs <;> simp_all [sameForest]

/-- Nodes that are the same are seen to have the same shape. -/
theorem Like.observedShape {a b : Node} (h : a.Like b) : a.observedShape = b.observedShape := by
  rw [Node.observedShape, Node.observedShape, isEmpty_of_sameForest h.children, h.value, h.shape]

end Node

/-- Two sites at one path, with nodes that are the same below nodes of the same kind. -/
structure Site.Like (s t : Site) : Prop where
  path : s.path = t.path
  node : s.node.same t.node = true
  above : s.above.map Node.kind = t.above.map Node.kind

/-- The sites of trees that are the same are paired off in document order. -/
theorem Node.like_sitesFrom (a : Node) {b : Node} (h : a.same b = true) {above above' : Option Node}
    (habove : above.map Node.kind = above'.map Node.kind) (path : Path) :
    List.Forall₂ Site.Like (a.sitesFrom above path) (b.sitesFrom above' path) := by
  -- for the children, the nodes that hold them need not be the same, only of the same kind
  induction a using Node.forest_induction (Q := fun as => ∀ bs, sameForest as bs = true →
      ∀ (holder holder' : Node) path index, holder.kind = holder'.kind →
        List.Forall₂ Site.Like (sitesBelow as holder path index) (sitesBelow bs holder' path index))
    generalizing b above above' path with
  | nil bs hbs holder holder' path index _ =>
    cases bs with
    | nil => simp only [sitesBelow, List.Forall₂.nil]
    | cons b bs => simp [sameForest] at hbs
  | cons child rest ihchild ihrest bs hbs holder holder' path index hholder =>
    cases bs with
    | nil => simp [sameForest] at hbs
    | cons b bs =>
      rw [sameForest, Bool.and_eq_true] at hbs
      rw [sitesBelow, sitesBelow]
      have habove : (some holder).map Node.kind = (some holder').map Node.kind := congrArg some hholder
      exact List.rel_append (ihchild hbs.1 habove _)
        (ihrest bs hbs.2 holder holder' path (index + 1) hholder)
  | step a ihchildren =>
    have hlike := like_of_same h
    rw [sitesFrom_eq, sitesFrom_eq]
    exact .cons ⟨rfl, h, habove⟩ (ihchildren b.children hlike.children a b path 0 hlike.kind)

theorem Node.like_sites {a b : Node} (h : a.same b = true) :
    List.Forall₂ Site.Like a.sites b.sites :=
  a.like_sitesFrom h rfl Path.root

end WikiDoc
