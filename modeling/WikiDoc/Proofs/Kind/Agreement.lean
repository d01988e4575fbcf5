import WikiDoc.Kind.Baseline
import WikiDoc.Kind.Extension
import WikiDoc.Proofs.Document.Sameness

/-!
Parts that are the same are built alike.

The checks before a constructor is called do not depend on the order of the attributes. Nor do the
constructors themselves (`Constructor.Respects`): they look attributes up by name, but for that of a
gallery, which goes through them all and puts up with any order. This does not rest on the checks, so it
also holds when a constructor is used with other rules than its own.
-/

namespace WikiDoc

namespace Node

/-- Every tree is the same as itself. -/
@[simp]
theorem same_refl (node : Node) : node.same node = true := by
  induction node using forest_induction (Q := fun children => sameForest children children = true) with
  | nil => rw [sameForest]
  | cons child rest ihchild ihrest => rw [sameForest, ihchild, ihrest]; rfl
  | step node ih =>
    cases node with
    | parent tag children => rw [same, ParentTag.same_refl, Bool.true_and]; exact ih
    | literal tag value => simp [same]
    | leaf tag => simp [same]
    | custom info children =>
      have hinfo : info.same info = true := by simp [Custom.same]
      rw [same, hinfo, Bool.true_and]
      exact ih

theorem same_parent {tag tag' : ParentTag} {as bs : List Node} (htag : tag.same tag' = true)
    (h : sameForest as bs = true) : (Node.parent tag as).same (.parent tag' bs) = true := by
  rw [same, htag, h]; rfl

end Node

/-- Two results are both errors, or both nodes that are the same. -/
def Agree (x y : Except BuildError Node) : Prop :=
  (∃ error error', x = .error error ∧ y = .error error') ∨
    ∃ node node', x = .ok node ∧ y = .ok node' ∧ node.same node' = true

namespace Agree

theorem ok {node node' : Node} (h : node.same node' = true) : Agree (.ok node) (.ok node') :=
  Or.inr ⟨node, node', rfl, rfl, h⟩

theorem error (e e' : BuildError) : Agree (.error e) (.error e') := Or.inl ⟨e, e', rfl, rfl⟩

theorem refl (x : Except BuildError Node) : Agree x x := by
  cases x with
  | ok node => exact .ok node.same_refl
  | error e => exact .error e e

theorem bind {α : Type} (read : Except BuildError α) {next next' : α → Except BuildError Node}
    (h : ∀ data, Agree (next data) (next' data)) : Agree (read >>= next) (read >>= next') := by
  cases read with
  | ok data => exact h data
  | error e => exact .error e e

end Agree

namespace Parts

/-- Two sets of parts agree, attributes in any order. -/
structure Like (p q : Parts) : Prop where
  attributes : p.attributes.same q.attributes = true
  children : Node.sameForest p.children q.children = true
  value : p.value = q.value

theorem like_of_same {p q : Parts} (h : p.same q = true) : p.Like q := by
  simp only [same, Bool.and_eq_true, beq_iff_eq] at h
  exact ⟨h.1.1, h.1.2, h.2⟩

variable {p q : Parts} (h : p.Like q)

include h

theorem Like.get? (name : String) : p.attributes.get? name = q.attributes.get? name :=
  OrderedMap.get?_of_same h.attributes name

theorem Like.text (name : String) : p.attributes.text name = q.attributes.text name := by
  rw [Attributes.text, Attributes.text, h.get?]

theorem Like.flag (name : String) : p.attributes.flag name = q.attributes.flag name := by
  rw [Attributes.flag, Attributes.flag, h.get?]

theorem Like.int (name : String) : p.attributes.int name = q.attributes.int name := by
  rw [Attributes.int, Attributes.int, h.get?]

theorem Like.neededText (kind name : String) :
    p.attributes.neededText kind name = q.attributes.neededText kind name := by
  rw [Attributes.neededText, Attributes.neededText, h.text]

theorem Like.agree_parent (tag : ParentTag) :
    Agree (.ok (.parent tag p.children)) (.ok (.parent tag q.children)) :=
  .ok (Node.same_parent tag.same_refl h.children)

end Parts

/-- The constructor makes the same of parts that agree. -/
def Constructor.Respects (build : Constructor) : Prop :=
  ∀ p q : Parts, p.Like q → Agree (build p) (build q)

/-- The constructor of the definition, if there is one, makes the same of parts that agree. -/
def KindDef.Respects (d : KindDef) : Prop := ∀ build, d.build = some build → build.Respects

theorem KindDef.Respects.of_build {d : KindDef} {build : Constructor} (hbuild : d.build = some build)
    (h : build.Respects) : d.Respects := by
  intro build' hbuild'
  cases hbuild.symm.trans hbuild'
  exact h

namespace Baseline

/-! ### The constructors, one by one -/

theorem respects_fromChildren (tag : ParentTag) : (fromChildren tag).Respects :=
  fun _ _ h => h.agree_parent tag

theorem respects_fromValue (tag : LiteralTag) : (fromValue tag).Respects := by
  intro p q h
  rw [fromValue, fromValue, h.value]
  exact .refl _

theorem respects_fromNothing (tag : LeafTag) : (fromNothing tag).Respects := fun _ _ _ => .refl _

theorem respects_heading : Constructor.Respects buildHeading := by
  intro p q h
  simp only [buildHeading, h.int]
  cases q.attributes.int "depth" with
  | none => exact .refl _
  | some depth =>
    simp only
    split
    · exact h.agree_parent _
    · exact .refl _

theorem respects_list : Constructor.Respects buildList := by
  intro p q h
  simp only [buildList, readStart, h.int, h.flag]
  exact .bind _ fun start => h.agree_parent _

theorem respects_listItem : Constructor.Respects buildListItem := by
  intro p q h
  simp only [buildListItem, h.flag]
  exact h.agree_parent _

theorem respects_table : Constructor.Respects buildTable := by
  intro p q h
  simp only [buildTable, h.get?]
  exact .bind _ fun align => h.agree_parent _

theorem respects_code : Constructor.Respects buildCode := by
  intro p q h
  simp only [buildCode, h.text, h.value]
  exact .refl _

theorem respects_link : Constructor.Respects buildLink := by
  intro p q h
  simp only [buildLink, Resource.ofAttributes, h.neededText, h.text]
  exact .bind _ fun resource => h.agree_parent _

theorem respects_linkReference : Constructor.Respects buildLinkReference := by
  intro p q h
  simp only [buildLinkReference, Reference.ofAttributes, Association.ofAttributes,
    Attributes.neededLiteral, h.neededText, h.text]
  exact .bind _ fun reference => h.agree_parent _

theorem respects_footnoteReference : Constructor.Respects buildFootnoteReference := by
  intro p q h
  simp only [buildFootnoteReference, Reference.ofAttributes, Association.ofAttributes,
    Attributes.neededLiteral, h.neededText, h.text]
  exact .refl _

theorem respects_definition : Constructor.Respects buildDefinition := by
  intro p q h
  simp only [buildDefinition, Association.ofAttributes, Resource.ofAttributes, h.neededText, h.text]
  exact .refl _

theorem respects_footnoteDefinition : Constructor.Respects buildFootnoteDefinition := by
  intro p q h
  simp only [buildFootnoteDefinition, Association.ofAttributes, h.neededText, h.text]
  exact .bind _ fun association => h.agree_parent _

theorem respects_image : Constructor.Respects buildImage := by
  intro p q h
  simp only [buildImage, Media.ofAttributes, Resource.ofAttributes, Alternative.ofAttributes,
    Media.optionsOfAttributes, h.neededText, h.text]
  exact .refl _

theorem respects_file : Constructor.Respects buildFile := by
  intro p q h
  simp only [buildFile, Media.ofAttributes, Resource.ofAttributes, Alternative.ofAttributes,
    Media.optionsOfAttributes, h.neededText, h.text]
  exact .refl _

/-- Which option is refused depends on the order, but not whether one is. -/
theorem respects_gallery : Constructor.Respects buildGallery := by
  intro p q h
  have hentries := OrderedMap.same_iff_perm.1 h.attributes
  cases hp : p.attributes.entries.find? fun entry => entry.2.asText.isNone with
  | none =>
    have hq : q.attributes.entries.find? (fun entry => entry.2.asText.isNone) = none :=
      List.find?_eq_none.2 fun entry hentry =>
        List.find?_eq_none.1 hp entry (hentries.symm.subset hentry)
    simp only [buildGallery, hp, hq]
    exact .ok (Node.same_parent (OrderedMap.same_mapValues h.attributes _) h.children)
  | some entry =>
    obtain ⟨entry', hq⟩ := Option.isSome_iff_exists.1 (List.find?_isSome.2
      ⟨entry, hentries.subset (List.mem_of_find?_eq_some hp), List.find?_some hp⟩)
    simp only [buildGallery, hp, hq]
    exact .error _ _

theorem respects_signature : Constructor.Respects buildSignature := by
  intro p q h
  simp only [buildSignature, Attributes.neededLiteral, h.neededText]
  exact .refl _

theorem respects_redirect : Constructor.Respects buildRedirect := by
  intro p q h
  simp only [buildRedirect, h.neededText]
  exact .refl _

theorem respects_references : Constructor.Respects buildReferences := by
  intro p q h
  simp only [buildReferences, h.text]
  exact .refl _

theorem respects_math : Constructor.Respects buildMath := by
  intro p q h
  simp only [buildMath, Attributes.optionalLiteral, h.text, h.value]
  exact .refl _

theorem respects_syntaxHighlight : Constructor.Respects buildSyntaxHighlight := by
  intro p q h
  simp only [buildSyntaxHighlight, h.text, h.flag, h.int, h.value]
  exact .refl _

/-! ### All of them -/

theorem respects_blockKinds : ∀ d ∈ blockKinds, d.Respects := by
  simp only [blockKinds, List.forall_mem_cons]
  refine ⟨?root, ?paragraph, ?heading, ?thematicBreak, ?blockquote, ?list, ?listItem, ?table, ?tableRow,
    ?tableCell, ?html, ?code, List.forall_mem_nil _⟩
  case root => exact .of_build rfl (respects_fromChildren _)
  case paragraph => exact .of_build rfl (respects_fromChildren _)
  case heading => exact .of_build rfl respects_heading
  case thematicBreak => exact .of_build rfl (respects_fromNothing _)
  case blockquote => exact .of_build rfl (respects_fromChildren _)
  case list => exact .of_build rfl respects_list
  case listItem => exact .of_build rfl respects_listItem
  case table => exact .of_build rfl respects_table
  case tableRow => exact .of_build rfl (respects_fromChildren _)
  case tableCell => exact .of_build rfl (respects_fromChildren _)
  case html => exact .of_build rfl (respects_fromValue _)
  case code => exact .of_build rfl respects_code

theorem respects_phrasingKinds : ∀ d ∈ phrasingKinds, d.Respects := by
  simp only [phrasingKinds, List.forall_mem_cons]
  refine ⟨?text, ?emphasis, ?strong, ?delete, ?inlineCode, ?lineBreak, ?link, ?linkReference, ?footnote,
    ?footnoteReference, List.forall_mem_nil _⟩
  case text => exact .of_build rfl (respects_fromValue _)
  case emphasis => exact .of_build rfl (respects_fromChildren _)
  case strong => exact .of_build rfl (respects_fromChildren _)
  case delete => exact .of_build rfl (respects_fromChildren _)
  case inlineCode => exact .of_build rfl (respects_fromValue _)
  case lineBreak => exact .of_build rfl (respects_fromNothing _)
  case link => exact .of_build rfl respects_link
  case linkReference => exact .of_build rfl respects_linkReference
  case footnote => exact .of_build rfl (respects_fromChildren _)
  case footnoteReference => exact .of_build rfl respects_footnoteReference

theorem respects_definitionKinds : ∀ d ∈ definitionKinds, d.Respects := by
  simp only [definitionKinds, List.forall_mem_cons]
  refine ⟨?definition, ?footnoteDefinition, List.forall_mem_nil _⟩
  case definition => exact .of_build rfl respects_definition
  case footnoteDefinition => exact .of_build rfl respects_footnoteDefinition

theorem respects_dialectKinds : ∀ d ∈ dialectKinds, d.Respects := by
  simp only [dialectKinds, List.forall_mem_cons]
  refine ⟨?image, ?file, ?gallery, ?signature, ?redirect, ?toc, ?nowiki, ?references, ?math,
    ?syntaxHighlight, List.forall_mem_nil _⟩
  case image => exact .of_build rfl respects_image
  case file => exact .of_build rfl respects_file
  case gallery => exact .of_build rfl respects_gallery
  case signature => exact .of_build rfl respects_signature
  case redirect => exact .of_build rfl respects_redirect
  case toc => exact .of_build rfl (respects_fromNothing _)
  case nowiki => exact .of_build rfl (respects_fromValue _)
  case references => exact .of_build rfl respects_references
  case math => exact .of_build rfl respects_math
  case syntaxHighlight => exact .of_build rfl respects_syntaxHighlight

theorem respects_kinds {d : KindDef} (hd : d ∈ kinds) : d.Respects := by
  rw [kinds, List.mem_append, List.mem_append, List.mem_append] at hd
  rcases hd with ((hd | hd) | hd) | hd
  · exact respects_blockKinds d hd
  · exact respects_phrasingKinds d hd
  · exact respects_definitionKinds d hd
  · exact respects_dialectKinds d hd

end Baseline

theorem Extension.respects_scoreDef : Extension.scoreDef.Respects := by
  refine .of_build rfl ?_
  intro p q h
  simp only [h.text, h.value]
  exact .refl _

namespace KindDef

/-- Parts that agree contradict a shape in the same way, if they do. -/
theorem misshape?_of_like {p q : Parts} (h : p.Like q) (shape : Shape) :
    misshape? shape p = misshape? shape q := by
  simp only [misshape?, h.value, Node.isEmpty_of_sameForest h.children]

/-- A definition whose constructor respects sameness builds the same of parts that agree. -/
theorem Respects.construct {d : KindDef} (hd : d.Respects) {p q : Parts} (h : p.Like q) :
    Agree (d.construct p) (d.construct q) := by
  have hproblems : d.problems p.attributes = [] ↔ d.problems q.attributes = [] :=
    attributeProblems_eq_nil_of_same h.attributes d.rules d.isOpen
  rw [KindDef.construct, KindDef.construct, misshape?_of_like h]
  cases misshape? d.shape q with
  | some misshape => exact .refl _
  | none =>
    cases hq : d.problems q.attributes with
    | nil =>
      simp only [hproblems.2 hq]
      cases hbuild : d.build with
      | some build => exact hd build hbuild p q h
      | none => exact .refl _
    | cons problem' rest' =>
      cases hp : d.problems p.attributes with
      | nil => rw [hproblems.1 hp] at hq; cases hq
      | cons problem rest => exact .error _ _

end KindDef

end WikiDoc
