import WikiDoc.Kind.Baseline
import WikiDoc.Proofs.Document.Reading

/-!
Built-in nodes are built again from their parts.

Each built-in kind writes its data into attributes and has a constructor that reads them. The two fit:
from the parts of a node its constructor builds the same node (`builder_parts`). When the rules of the
kind are checked first, the node comes back exactly if its attributes have no problem, and otherwise
the first problem is the error (`construct_parts`).
-/

namespace WikiDoc

theorem OrderedMap.ext_entries {κ : Type u} {α : Type v} {a b : OrderedMap κ α}
    (h : a.entries = b.entries) : a = b := by
  cases a; cases b; cases h; rfl

namespace Baseline

/-! ### The constructors, one by one -/

theorem buildHeading_parts (depth : UInt8) (children : List Node) :
    buildHeading (Node.parent (.heading depth) children).parts = .ok (.parent (.heading depth) children) := by
  have hint : (Node.parent (.heading depth) children).parts.attributes.int "depth" =
      some (depth.toNat : Int) := by
    simp [Node.parts, Node.attributes, ParentTag.attributes, Attributes.collect, Attributes.int,
      AttrValue.asInt]
  have hrange : (0 : Int) ≤ depth.toNat ∧ (depth.toNat : Int) < 256 := by
    have := depth.toNat_lt
    omega
  simp only [buildHeading, hint, if_pos hrange, Int.toNat_natCast, UInt8.ofNat_toNat]
  rfl

theorem buildList_parts (options : ListOptions) (children : List Node) :
    buildList (Node.parent (.list options) children).parts = .ok (.parent (.list options) children) := by
  have hint : (Node.parent (.list options) children).parts.attributes.int "start" =
      options.start.map fun start => (start.toNat : Int) := by
    cases hstart : options.start <;>
      simp [Node.parts, Node.attributes, ParentTag.attributes, ListOptions.fields, Attributes.collect,
        Attributes.int, AttrValue.asInt, hstart]
  have hread : readStart (Node.parent (.list options) children).parts.attributes =
      .ok options.start := by
    rw [readStart, hint]
    cases options.start with
    | none => rfl
    | some start =>
      have hrange : (0 : Int) ≤ start.toNat ∧ (start.toNat : Int) < 4294967296 := by
        have := start.toNat_lt
        omega
      simp only [Option.map_some, if_pos hrange, Int.toNat_natCast, UInt32.ofNat_toNat]
  have hflags : (Node.parent (.list options) children).parts.attributes.flag "ordered" =
        options.ordered ∧
      (Node.parent (.list options) children).parts.attributes.flag "spread" = options.spread ∧
      (Node.parent (.list options) children).parts.attributes.flag "definition" =
        options.definition := by
    simp [Node.parts, Node.attributes, ParentTag.attributes, ListOptions.fields, Attributes.collect,
      Attributes.flag]
  rw [buildList, hread, hflags.1, hflags.2.1, hflags.2.2]
  rfl

theorem buildListItem_parts (options : ItemOptions) (children : List Node) :
    buildListItem (Node.parent (.listItem options) children).parts =
      .ok (.parent (.listItem options) children) := by
  simp [buildListItem, Node.parts, Node.attributes, ParentTag.attributes, ItemOptions.fields,
    Attributes.collect, Attributes.flag, Node.children]

theorem readAlignments_map : ∀ align : List Alignment,
    readAlignments (align.map Spelled.toValue) = .ok align
  | [] => rfl
  | alignment :: align => by
    rw [List.map_cons, readAlignments, readAlignments_map align]
    change (Attributes.readLiteral "table" "align" (spelling alignment) >>= _) = _
    rw [Attributes.readLiteral_spelling]
    rfl

theorem buildTable_parts (align : List Alignment) (children : List Node) :
    buildTable (Node.parent (.table align) children).parts = .ok (.parent (.table align) children) := by
  have hread : (((Node.parent (.table align) children).parts.attributes.get? "align").bind
      AttrValue.asList).getD [] = align.map Spelled.toValue := by
    cases align with
    | nil => rfl
    | cons alignment align =>
      simp [Node.parts, Node.attributes, ParentTag.attributes, Attributes.collect, AttrValue.asList]
  rw [buildTable, hread, readAlignments_map]
  rfl

theorem buildCode_parts (lang info : Option String) (value : String) :
    buildCode (Node.literal (.code lang info) value).parts = .ok (.literal (.code lang info) value) := by
  simp [buildCode, Node.parts, Node.attributes, LiteralTag.attributes, Attributes.collect,
    Attributes.text, Node.value]

theorem buildLink_parts (resource : Resource) (children : List Node) :
    buildLink (Node.parent (.link resource) children).parts = .ok (.parent (.link resource) children) := by
  have hread : Resource.ofAttributes "link" (Node.parent (.link resource) children).parts.attributes =
      .ok resource := by
    apply Resource.ofAttributes_eq <;>
      simp [Node.parts, Node.attributes, ParentTag.attributes, Resource.fields, Attributes.collect,
        Attributes.text, AttrValue.asText]
  rw [buildLink, hread]
  rfl

theorem buildLinkReference_parts (reference : Reference) (children : List Node) :
    buildLinkReference (Node.parent (.linkReference reference) children).parts =
      .ok (.parent (.linkReference reference) children) := by
  have hread : Reference.ofAttributes "linkReference"
      (Node.parent (.linkReference reference) children).parts.attributes = .ok reference :=
    reference.ofAttributes_fields
  rw [buildLinkReference, hread]
  rfl

theorem buildFootnoteReference_parts (reference : Reference) :
    buildFootnoteReference (Node.leaf (.footnoteReference reference)).parts =
      .ok (.leaf (.footnoteReference reference)) := by
  have hread : Reference.ofAttributes "footnoteReference"
      (Node.leaf (.footnoteReference reference)).parts.attributes = .ok reference :=
    reference.ofAttributes_fields
  rw [buildFootnoteReference, hread]
  rfl

theorem buildDefinition_parts (association : Association) (resource : Resource) :
    buildDefinition (Node.leaf (.definition association resource)).parts =
      .ok (.leaf (.definition association resource)) := by
  have hassociation : Association.ofAttributes "definition"
      (Node.leaf (.definition association resource)).parts.attributes = .ok association := by
    apply Association.ofAttributes_eq <;>
      simp [Node.parts, Node.attributes, LeafTag.attributes, Association.fields, Resource.fields,
        Attributes.collect, Attributes.text, AttrValue.asText]
  have hresource : Resource.ofAttributes "definition"
      (Node.leaf (.definition association resource)).parts.attributes = .ok resource := by
    apply Resource.ofAttributes_eq <;>
      simp [Node.parts, Node.attributes, LeafTag.attributes, Association.fields, Resource.fields,
        Attributes.collect, Attributes.text, AttrValue.asText]
  rw [buildDefinition, hassociation, hresource]
  rfl

theorem buildFootnoteDefinition_parts (association : Association) (children : List Node) :
    buildFootnoteDefinition (Node.parent (.footnoteDefinition association) children).parts =
      .ok (.parent (.footnoteDefinition association) children) := by
  have hread : Association.ofAttributes "footnoteDefinition"
      (Node.parent (.footnoteDefinition association) children).parts.attributes = .ok association := by
    apply Association.ofAttributes_eq <;>
      simp [Node.parts, Node.attributes, ParentTag.attributes, Association.fields,
        Attributes.collect, Attributes.text, AttrValue.asText]
  rw [buildFootnoteDefinition, hread]
  rfl

theorem buildImage_parts (media : Media) :
    buildImage (Node.leaf (.image media)).parts = .ok (.leaf (.image media)) := by
  have hread : Media.ofAttributes "image" (Node.leaf (.image media)).parts.attributes = .ok media :=
    media.ofAttributes_fields
  rw [buildImage, hread]
  rfl

theorem buildFile_parts (media : Media) :
    buildFile (Node.leaf (.file media)).parts = .ok (.leaf (.file media)) := by
  have hread : Media.ofAttributes "file" (Node.leaf (.file media)).parts.attributes = .ok media :=
    media.ofAttributes_fields
  rw [buildFile, hread]
  rfl

/-- All attributes of a gallery are texts, those of its options. -/
theorem buildGallery_parts (options : OrderedMap String String) (children : List Node) :
    buildGallery (Node.parent (.gallery options) children).parts =
      .ok (.parent (.gallery options) children) := by
  have htexts : (Node.parent (.gallery options) children).parts.attributes.entries.find?
      (fun entry => entry.2.asText.isNone) = none := by
    rw [List.find?_eq_none]
    intro entry hentry
    obtain ⟨option, _, rfl⟩ := List.mem_map.1 hentry
    simp [AttrValue.asText]
  have hoptions : ((Node.parent (.gallery options) children).parts.attributes.mapValues
      fun value => value.asText.getD "") = options := by
    apply OrderedMap.ext_entries
    change (options.entries.map _).map _ = options.entries
    rw [List.map_map]
    exact List.map_id'' (fun _ => rfl) options.entries
  rw [buildGallery, htexts]
  simp only [hoptions]
  rfl

theorem buildSignature_parts (form : SignatureForm) :
    buildSignature (Node.leaf (.signature form)).parts = .ok (.leaf (.signature form)) := by
  have hread : (Node.leaf (.signature form)).parts.attributes.neededLiteral "signature" "kind" =
      .ok form := by
    apply Attributes.neededLiteral_eq
    simp [Node.parts, Node.attributes, LeafTag.attributes, Attributes.collect, Attributes.text,
      Spelled.toValue, AttrValue.asText]
  rw [buildSignature, hread]
  rfl

theorem buildRedirect_parts (target : String) :
    buildRedirect (Node.leaf (.redirect target)).parts = .ok (.leaf (.redirect target)) := by
  have hread : (Node.leaf (.redirect target)).parts.attributes.neededText "redirect" "target" =
      .ok target := by
    apply Attributes.neededText_eq
    simp [Node.parts, Node.attributes, LeafTag.attributes, Attributes.collect, Attributes.text,
      AttrValue.asText]
  rw [buildRedirect, hread]
  rfl

theorem buildReferences_parts (group : Option String) :
    buildReferences (Node.leaf (.references group)).parts = .ok (.leaf (.references group)) := by
  simp [buildReferences, Node.parts, Node.attributes, LeafTag.attributes, Attributes.collect,
    Attributes.text]

theorem buildMath_parts (display : Option MathDisplay) (value : String) :
    buildMath (Node.literal (.math display) value).parts = .ok (.literal (.math display) value) := by
  have hread : (Node.literal (.math display) value).parts.attributes.optionalLiteral "math" "display" =
      .ok display := by
    apply Attributes.optionalLiteral_eq
    cases display <;> rfl
  rw [buildMath, hread]
  rfl

theorem buildSyntaxHighlight_parts (options : HighlightOptions) (value : String) :
    buildSyntaxHighlight (Node.literal (.syntaxHighlight options) value).parts =
      .ok (.literal (.syntaxHighlight options) value) := by
  simp [buildSyntaxHighlight, Node.parts, Node.attributes, LiteralTag.attributes,
    HighlightOptions.fields, Attributes.collect, Attributes.text, Attributes.flag, Attributes.int,
    Node.value]

/-! ### All of them -/

/-- The definition of a built-in kind in the table. -/
def definition? (kind : String) : Option KindDef := kinds.find? fun d => d.kind == kind

theorem builder_parent (tag : ParentTag) (children : List Node) : ∃ d build,
    definition? tag.kind = some d ∧ d.shape = .parent ∧ d.build = some build ∧
      build (Node.parent tag children).parts = .ok (.parent tag children) := by
  cases tag with
  | root => exact ⟨_, _, rfl, rfl, rfl, rfl⟩
  | paragraph => exact ⟨_, _, rfl, rfl, rfl, rfl⟩
  | heading depth => exact ⟨_, _, rfl, rfl, rfl, buildHeading_parts depth children⟩
  | blockquote => exact ⟨_, _, rfl, rfl, rfl, rfl⟩
  | list options => exact ⟨_, _, rfl, rfl, rfl, buildList_parts options children⟩
  | listItem options => exact ⟨_, _, rfl, rfl, rfl, buildListItem_parts options children⟩
  | table align => exact ⟨_, _, rfl, rfl, rfl, buildTable_parts align children⟩
  | tableRow => exact ⟨_, _, rfl, rfl, rfl, rfl⟩
  | tableCell => exact ⟨_, _, rfl, rfl, rfl, rfl⟩
  | emphasis => exact ⟨_, _, rfl, rfl, rfl, rfl⟩
  | strong => exact ⟨_, _, rfl, rfl, rfl, rfl⟩
  | delete => exact ⟨_, _, rfl, rfl, rfl, rfl⟩
  | link resource => exact ⟨_, _, rfl, rfl, rfl, buildLink_parts resource children⟩
  | linkReference reference =>
    exact ⟨_, _, rfl, rfl, rfl, buildLinkReference_parts reference children⟩
  | footnote => exact ⟨_, _, rfl, rfl, rfl, rfl⟩
  | footnoteDefinition association =>
    exact ⟨_, _, rfl, rfl, rfl, buildFootnoteDefinition_parts association children⟩
  | gallery options => exact ⟨_, _, rfl, rfl, rfl, buildGallery_parts options children⟩

theorem builder_literal (tag : LiteralTag) (value : String) : ∃ d build,
    definition? tag.kind = some d ∧ d.shape = .literal ∧ d.build = some build ∧
      build (Node.literal tag value).parts = .ok (.literal tag value) := by
  cases tag with
  | html => exact ⟨_, _, rfl, rfl, rfl, rfl⟩
  | code lang info => exact ⟨_, _, rfl, rfl, rfl, buildCode_parts lang info value⟩
  | text => exact ⟨_, _, rfl, rfl, rfl, rfl⟩
  | inlineCode => exact ⟨_, _, rfl, rfl, rfl, rfl⟩
  | nowiki => exact ⟨_, _, rfl, rfl, rfl, rfl⟩
  | math display => exact ⟨_, _, rfl, rfl, rfl, buildMath_parts display value⟩
  | syntaxHighlight options =>
    exact ⟨_, _, rfl, rfl, rfl, buildSyntaxHighlight_parts options value⟩

theorem builder_leaf (tag : LeafTag) : ∃ d build,
    definition? tag.kind = some d ∧ d.shape = .leaf ∧ d.build = some build ∧
      build (Node.leaf tag).parts = .ok (.leaf tag) := by
  cases tag with
  | thematicBreak => exact ⟨_, _, rfl, rfl, rfl, rfl⟩
  | lineBreak => exact ⟨_, _, rfl, rfl, rfl, rfl⟩
  | footnoteReference reference =>
    exact ⟨_, _, rfl, rfl, rfl, buildFootnoteReference_parts reference⟩
  | definition association resource =>
    exact ⟨_, _, rfl, rfl, rfl, buildDefinition_parts association resource⟩
  | image media => exact ⟨_, _, rfl, rfl, rfl, buildImage_parts media⟩
  | file media => exact ⟨_, _, rfl, rfl, rfl, buildFile_parts media⟩
  | signature form => exact ⟨_, _, rfl, rfl, rfl, buildSignature_parts form⟩
  | redirect target => exact ⟨_, _, rfl, rfl, rfl, buildRedirect_parts target⟩
  | toc => exact ⟨_, _, rfl, rfl, rfl, rfl⟩
  | references group => exact ⟨_, _, rfl, rfl, rfl, buildReferences_parts group⟩

/-- The kind of a built-in node has a definition of the same shape, whose constructor builds the node
again from its parts. -/
theorem builder_parts {node : Node} (h : node.origin? = none) : ∃ d build,
    definition? node.kind = some d ∧ d.shape = node.shape ∧ d.build = some build ∧
      build node.parts = .ok node := by
  cases node with
  | parent tag children => exact builder_parent tag children
  | literal tag value => exact builder_literal tag value
  | leaf tag => exact builder_leaf tag
  | custom info children => cases h

end Baseline

/-- A value, unless there is a failure. -/
def orFail {ε α : Type} (value : α) : Option ε → Except ε α
  | none => .ok value
  | some error => .error error

/-- The error that the first problem of a node with the rules of a definition causes. -/
def KindDef.failure? (d : KindDef) (node : Node) : Option BuildError :=
  (d.problems node.attributes).head?.map (problemError d.kind)

/-- A built-in node is built from its own parts unless its attributes have a problem; then the first
problem is the error. -/
theorem construct_parts {node : Node} (h : node.origin? = none) : ∃ d ∈ Baseline.kinds,
    d.kind = node.kind ∧ d.construct node.parts = orFail node (d.failure? node) := by
  obtain ⟨d, build, hd, hshape, hbuild, hbuilt⟩ := Baseline.builder_parts h
  refine ⟨d, List.mem_of_find?_eq_some hd, by simpa using List.find?_some hd, ?_⟩
  have hfits : KindDef.misshape? node.shape node.parts = none := by
    cases node with
    | parent tag children => rfl
    | literal tag value => rfl
    | leaf tag => rfl
    | custom info children => cases h
  rw [KindDef.construct, hshape, hfits, KindDef.failure?]
  have hattributes : node.parts.attributes = node.attributes := rfl
  rw [hattributes]
  cases d.problems node.attributes with
  | nil => simp only [hbuild, hbuilt]; rfl
  | cons problem rest => rfl

end WikiDoc
