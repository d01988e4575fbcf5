import WikiDoc.Proofs.Attribute.Obedience
import WikiDoc.Proofs.Kind.RoundTrip

/-!
Built-in nodes carry the parts they were built from.

The rules of a kind and its constructor describe the same attributes independently of each other. They
agree: once the parts fit the shape and the rules, no constructor fails, with one exception, and the
node reports the children, the value and the attributes that it was given (`construct_checked`). The
exception is a gallery, whose further options must be texts. A table does not report an empty list of
alignments.
-/

namespace WikiDoc

/-- What a built node reports under a name: the value that it was given, but a table does not report an
empty list of alignments. -/
def keptAttribute (kind : String) (attrs : Attributes) (name : String) : Option AttrValue :=
  if kind = "table" ∧ name = "align" ∧ attrs.get? name = some (.list []) then none
  else attrs.get? name

theorem keptAttribute_of_ne {kind : String} (h : kind ≠ "table") (attrs : Attributes) (name : String) :
    keptAttribute kind attrs name = attrs.get? name := if_neg fun h' => h h'.1

/-- The node is a built-in one of the kind and the shape, and reports the parts. -/
structure Node.Carries (node : Node) (kind : String) (shape : Shape) (parts : Parts) : Prop where
  origin : node.origin? = none
  kind : node.kind = kind
  shape : node.shape = shape
  children : node.children = parts.children
  value : node.value = parts.value
  attributes : ∀ name, node.attributes.get? name = keptAttribute node.kind parts.attributes name

section Shapes

open KindDef

variable {parts : Parts}

theorem Node.carries_parent {tag : ParentTag} (htable : ∀ align, tag ≠ .table align)
    (hfits : misshape? .parent parts = none)
    (hattributes : ∀ name, tag.attributes.get? name = parts.attributes.get? name) :
    (Node.parent tag parts.children).Carries tag.kind .parent parts := by
  have hvalue : parts.value = none := by simpa [misshape?] using hfits
  have hkind : tag.kind ≠ "table" := by
    cases tag with
    | table align => exact absurd rfl (htable align)
    | _ => simp [ParentTag.kind]
  refine ⟨rfl, rfl, rfl, rfl, hvalue.symm, fun name => ?_⟩
  exact (hattributes name).trans (keptAttribute_of_ne hkind _ _).symm

theorem Node.carries_literal {tag : LiteralTag} (hfits : misshape? .literal parts = none)
    (hattributes : ∀ name, tag.attributes.get? name = parts.attributes.get? name) :
    (Node.literal tag (parts.value.getD "")).Carries tag.kind .literal parts := by
  have hcontent : parts.children = [] ∧ parts.value = some (parts.value.getD "") := by
    simp only [misshape?] at hfits
    cases hchildren : parts.children <;> cases hvalue : parts.value <;> simp_all
  have hkind : tag.kind ≠ "table" := by cases tag <;> simp [LiteralTag.kind]
  refine ⟨rfl, rfl, rfl, hcontent.1.symm, hcontent.2.symm, fun name => ?_⟩
  exact (hattributes name).trans (keptAttribute_of_ne hkind _ _).symm

theorem Node.carries_leaf {tag : LeafTag} (hfits : misshape? .leaf parts = none)
    (hattributes : ∀ name, tag.attributes.get? name = parts.attributes.get? name) :
    (Node.leaf tag).Carries tag.kind .leaf parts := by
  have hcontent : parts.children = [] ∧ parts.value = none := by simpa [misshape?] using hfits
  have hkind : tag.kind ≠ "table" := by cases tag <;> simp [LeafTag.kind]
  refine ⟨rfl, rfl, rfl, hcontent.1.symm, hcontent.2.symm, fun name => ?_⟩
  exact (hattributes name).trans (keptAttribute_of_ne hkind _ _).symm

end Shapes

namespace Baseline

open KindDef AttributeRule

variable {parts : Parts}

/-- A constructor that reads data from attributes without a problem and makes a node of them: the node
carries the parts if the attributes hold the fields of the data. -/
theorem carries_of_read {α : Type} {kind : String} {shape : Shape} {rules : List AttributeRule}
    {fields : α → List (String × Option AttrValue)} {read : Except BuildError α} {make : α → Node}
    (hread : ∃ data, read = .ok data ∧ parts.attributes.Holds (fields data))
    (hnames : ∀ data, (fields data).map Prod.fst = rules.map AttributeRule.name)
    (h : attributeProblems rules false parts.attributes = [])
    (hmake : ∀ data, (∀ name, (Attributes.collect (fields data)).get? name =
      parts.attributes.get? name) → (make data).Carries kind shape parts) :
    ∃ node, (read >>= fun data => pure (make data)) = .ok node ∧ node.Carries kind shape parts := by
  obtain ⟨data, rfl, hfields⟩ := hread
  exact ⟨make data, rfl, hmake data (Attributes.get?_collect h (hnames data) hfields)⟩

/-! ### The constructors, one by one -/

theorem carries_fromChildren {tag : ParentTag} (htable : ∀ align, tag ≠ .table align)
    (hnone : tag.attributes = .collect []) (hfits : misshape? .parent parts = none)
    (h : attributeProblems [] false parts.attributes = []) :
    ∃ node, fromChildren tag parts = .ok node ∧ node.Carries tag.kind .parent parts :=
  ⟨_, rfl, Node.carries_parent htable hfits
    (hnone ▸ Attributes.get?_collect h rfl (List.forall_mem_nil _))⟩

theorem carries_fromValue {tag : LiteralTag} (hnone : tag.attributes = .collect [])
    (hfits : misshape? .literal parts = none) (h : attributeProblems [] false parts.attributes = []) :
    ∃ node, fromValue tag parts = .ok node ∧ node.Carries tag.kind .literal parts :=
  ⟨_, rfl, Node.carries_literal hfits (hnone ▸ Attributes.get?_collect h rfl (List.forall_mem_nil _))⟩

theorem carries_fromNothing {tag : LeafTag} (hnone : tag.attributes = .collect [])
    (hfits : misshape? .leaf parts = none) (h : attributeProblems [] false parts.attributes = []) :
    ∃ node, fromNothing tag parts = .ok node ∧ node.Carries tag.kind .leaf parts :=
  ⟨_, rfl, Node.carries_leaf hfits (hnone ▸ Attributes.get?_collect h rfl (List.forall_mem_nil _))⟩

/-- A depth from 1 to 6 fits in 8 bits. -/
theorem carries_heading (hfits : misshape? .parent parts = none)
    (h : attributeProblems [.needed "depth" (.range 1 6)] false parts.attributes = []) :
    ∃ node, buildHeading parts = .ok node ∧ node.Carries "heading" .parent parts := by
  obtain ⟨value, hvalue, haccepted⟩ :=
    value_of_needed ((attributeProblems_eq_nil_iff.1 h).1 _ List.mem_cons_self)
  obtain ⟨depth, rfl, hlow, hhigh⟩ := Constraint.int_of_accepted haccepted
  have hdepth : ((UInt8.ofNat depth.toNat).toNat : Int) = depth := by
    rw [UInt8.toNat_ofNat_of_lt' (by simp only [UInt8.size]; omega)]
    omega
  have hint : parts.attributes.int "depth" = some depth := by rw [Attributes.int, hvalue]; rfl
  refine ⟨.parent (.heading (UInt8.ofNat depth.toNat)) parts.children, ?_, ?_⟩
  · simp only [buildHeading, hint]
    rw [if_pos (by omega)]
  · refine Node.carries_parent (by simp) hfits (Attributes.get?_collect h rfl ?_)
    rw [Attributes.Holds, List.forall_mem_singleton, hvalue, hdepth]

/-- What is read as the number of the first item is all there is. -/
theorem readStart_of_obeyed {attrs : Attributes}
    (h : (AttributeRule.optional "start" (.range 0 4294967295)).problem? attrs = none) :
    ∃ start : Option UInt32, readStart attrs = .ok start ∧
      start.map (fun start => AttrValue.int start.toNat) = attrs.get? "start" := by
  cases hvalue : attrs.get? "start" with
  | none =>
    have hint : attrs.int "start" = none := by rw [Attributes.int, hvalue]; rfl
    exact ⟨none, by rw [readStart, hint], rfl⟩
  | some value =>
    obtain ⟨start, rfl, hlow, hhigh⟩ :=
      Constraint.int_of_accepted ((problem?_eq_none_iff.1 h).1 value hvalue)
    have hint : attrs.int "start" = some start := by rw [Attributes.int, hvalue]; rfl
    have hstart : ((UInt32.ofNat start.toNat).toNat : Int) = start := by
      rw [UInt32.toNat_ofNat_of_lt' (by simp only [UInt32.size]; omega)]
      omega
    refine ⟨some (UInt32.ofNat start.toNat), ?_, by rw [Option.map_some, hstart]⟩
    simp only [readStart, hint]
    rw [if_pos (by omega)]

theorem carries_list (hfits : misshape? .parent parts = none)
    (h : attributeProblems listRules false parts.attributes = []) :
    ∃ node, buildList parts = .ok node ∧ node.Carries "list" .parent parts := by
  have hobeys := (attributeProblems_eq_nil_iff.1 h).1
  simp only [Obeys, listRules, List.forall_mem_cons] at hobeys
  obtain ⟨hordered, hspread, hstart, hdefinition, -⟩ := hobeys
  obtain ⟨start, hread, hstart⟩ := readStart_of_obeyed hstart
  refine ⟨_, by rw [buildList, hread]; rfl, ?_⟩
  refine Node.carries_parent (by simp) hfits (Attributes.get?_collect h rfl ?_)
  simp only [Attributes.Holds, ListOptions.fields, List.forall_mem_cons]
  exact ⟨flag_of_obeyed rfl hordered, flag_of_obeyed rfl hspread, hstart,
    flag_of_obeyed rfl hdefinition, List.forall_mem_nil _⟩

theorem carries_listItem (hfits : misshape? .parent parts = none)
    (h : attributeProblems [flag "spread", flag "checked"] false parts.attributes = []) :
    ∃ node, buildListItem parts = .ok node ∧ node.Carries "listItem" .parent parts := by
  have hobeys := (attributeProblems_eq_nil_iff.1 h).1
  simp only [Obeys, List.forall_mem_cons] at hobeys
  obtain ⟨hspread, hchecked, -⟩ := hobeys
  refine ⟨_, rfl, Node.carries_parent (by simp) hfits (Attributes.get?_collect h rfl ?_)⟩
  simp only [Attributes.Holds, ItemOptions.fields, List.forall_mem_cons]
  exact ⟨flag_of_obeyed rfl hspread, flag_of_obeyed rfl hchecked, List.forall_mem_nil _⟩

/-- A table reports its alignments unless there are none. -/
theorem get?_tableAttributes (align : List Alignment) (name : String) :
    (ParentTag.table align).attributes.get? name =
      if name = "align" ∧ align ≠ [] then some (.list (align.map Spelled.toValue)) else none := by
  cases align with
  | nil => simp [ParentTag.attributes]
  | cons alignment align => simp [ParentTag.attributes, Attributes.collect, OrderedMap.insert?]

/-- The attribute of a table is absent or a list of alignments. -/
theorem align_of_obeyed {attrs : Attributes}
    (h : (AttributeRule.optional "align"
      (.listOf (.oneOf (Spelled.literals Alignment)))).problem? attrs = none) :
    attrs.get? "align" = none ∨
      ∃ align : List Alignment, attrs.get? "align" = some (.list (align.map Spelled.toValue)) := by
  cases hvalue : attrs.get? "align" with
  | none => exact Or.inl rfl
  | some value =>
    have haccepted := (problem?_eq_none_iff.1 h).1 value hvalue
    cases value with
    | list items =>
      obtain ⟨align, rfl⟩ := Constraint.literals_of_accepted haccepted
      exact Or.inr ⟨align, rfl⟩
    | _ => cases haccepted

theorem carries_table (hfits : misshape? .parent parts = none)
    (h : attributeProblems [.optional "align" (.listOf (.oneOf (Spelled.literals Alignment)))] false
      parts.attributes = []) :
    ∃ node, buildTable parts = .ok node ∧ node.Carries "table" .parent parts := by
  obtain ⟨hobeys, hothers⟩ := attributeProblems_eq_nil_iff.1 h
  have hvalue : parts.value = none := by simpa [misshape?] using hfits
  -- the attributes of the table hold the alignments that were read
  obtain ⟨align, hread, hkept⟩ : ∃ align : List Alignment,
      (((parts.attributes.get? "align").bind AttrValue.asList).getD []) = align.map Spelled.toValue ∧
        keptAttribute "table" parts.attributes "align" =
          if align ≠ [] then some (.list (align.map Spelled.toValue)) else none := by
    rcases align_of_obeyed (hobeys _ List.mem_cons_self) with hnone | ⟨align, halign⟩
    · exact ⟨[], by simp [hnone], by simp [keptAttribute, hnone]⟩
    · refine ⟨align, by simp [halign, AttrValue.asList], ?_⟩
      cases align <;> simp [keptAttribute, halign]
  refine ⟨.parent (.table align) parts.children, ?_, ⟨rfl, rfl, rfl, rfl, hvalue.symm, fun name => ?_⟩⟩
  · rw [buildTable, hread, readAlignments_map]; rfl
  · refine (get?_tableAttributes align name).trans ?_
    by_cases hname : name = "align"
    · subst hname
      simp only [true_and]
      exact hkept.symm
    · have hnone : parts.attributes.get? name = none :=
        hothers rfl name fun hmem => hname (List.mem_singleton.1 hmem)
      simp [keptAttribute, hname, hnone]

theorem carries_code (hfits : misshape? .literal parts = none)
    (h : attributeProblems [text "lang", text "meta"] false parts.attributes = []) :
    ∃ node, buildCode parts = .ok node ∧ node.Carries "code" .literal parts := by
  have hobeys := (attributeProblems_eq_nil_iff.1 h).1
  simp only [Obeys, List.forall_mem_cons] at hobeys
  obtain ⟨hlang, hmeta, -⟩ := hobeys
  refine ⟨_, rfl, Node.carries_literal hfits (Attributes.get?_collect h rfl ?_)⟩
  simp only [Attributes.Holds, List.forall_mem_cons]
  exact ⟨text_of_obeyed rfl hlang, text_of_obeyed rfl hmeta, List.forall_mem_nil _⟩

theorem carries_link (hfits : misshape? .parent parts = none)
    (h : attributeProblems Resource.rules false parts.attributes = []) :
    ∃ node, buildLink parts = .ok node ∧ node.Carries "link" .parent parts := by
  have hread := Resource.of_obeys "link" (attributeProblems_eq_nil_iff.1 h).1
  exact carries_of_read hread (fun _ => rfl) h fun _ hkept => Node.carries_parent (by simp) hfits hkept

theorem carries_linkReference (hfits : misshape? .parent parts = none)
    (h : attributeProblems Reference.rules false parts.attributes = []) :
    ∃ node, buildLinkReference parts = .ok node ∧ node.Carries "linkReference" .parent parts := by
  have hread := Reference.of_obeys "linkReference" (attributeProblems_eq_nil_iff.1 h).1
  exact carries_of_read hread (fun _ => rfl) h fun _ hkept => Node.carries_parent (by simp) hfits hkept

theorem carries_footnoteReference (hfits : misshape? .leaf parts = none)
    (h : attributeProblems Reference.rules false parts.attributes = []) :
    ∃ node, buildFootnoteReference parts = .ok node ∧ node.Carries "footnoteReference" .leaf parts := by
  have hread := Reference.of_obeys "footnoteReference" (attributeProblems_eq_nil_iff.1 h).1
  exact carries_of_read hread (fun _ => rfl) h fun _ hkept => Node.carries_leaf hfits hkept

theorem carries_definition (hfits : misshape? .leaf parts = none)
    (h : attributeProblems (Association.rules ++ Resource.rules) false parts.attributes = []) :
    ∃ node, buildDefinition parts = .ok node ∧ node.Carries "definition" .leaf parts := by
  obtain ⟨hassociation, hresource⟩ := List.forall_mem_append.1 (attributeProblems_eq_nil_iff.1 h).1
  obtain ⟨association, hread, hfields⟩ := Association.of_obeys "definition" hassociation
  obtain ⟨resource, hread', hfields'⟩ := Resource.of_obeys "definition" hresource
  refine ⟨_, by rw [buildDefinition, hread, hread']; rfl, ?_⟩
  exact Node.carries_leaf hfits
    (Attributes.get?_collect h rfl (List.forall_mem_append.2 ⟨hfields, hfields'⟩))

theorem carries_footnoteDefinition (hfits : misshape? .parent parts = none)
    (h : attributeProblems Association.rules false parts.attributes = []) :
    ∃ node, buildFootnoteDefinition parts = .ok node ∧
      node.Carries "footnoteDefinition" .parent parts := by
  have hread := Association.of_obeys "footnoteDefinition" (attributeProblems_eq_nil_iff.1 h).1
  exact carries_of_read hread (fun _ => rfl) h fun _ hkept => Node.carries_parent (by simp) hfits hkept

theorem carries_image (hfits : misshape? .leaf parts = none)
    (h : attributeProblems Media.rules false parts.attributes = []) :
    ∃ node, buildImage parts = .ok node ∧ node.Carries "image" .leaf parts := by
  have hread := Media.of_obeys "image" (attributeProblems_eq_nil_iff.1 h).1
  exact carries_of_read hread (fun _ => rfl) h fun _ hkept => Node.carries_leaf hfits hkept

theorem carries_file (hfits : misshape? .leaf parts = none)
    (h : attributeProblems Media.rules false parts.attributes = []) :
    ∃ node, buildFile parts = .ok node ∧ node.Carries "file" .leaf parts := by
  have hread := Media.of_obeys "file" (attributeProblems_eq_nil_iff.1 h).1
  exact carries_of_read hread (fun _ => rfl) h fun _ hkept => Node.carries_leaf hfits hkept

theorem carries_signature (hfits : misshape? .leaf parts = none)
    (h : attributeProblems [.needed "kind" (.oneOf (Spelled.literals SignatureForm))] false
      parts.attributes = []) :
    ∃ node, buildSignature parts = .ok node ∧ node.Carries "signature" .leaf parts := by
  obtain ⟨form, hform⟩ :=
    literal_of_needed ((attributeProblems_eq_nil_iff.1 h).1 _ List.mem_cons_self)
  have hread : parts.attributes.neededLiteral "signature" "kind" = .ok form := by
    apply Attributes.neededLiteral_eq
    rw [Attributes.text, hform]; rfl
  refine ⟨_, by rw [buildSignature, hread]; rfl, ?_⟩
  exact Node.carries_leaf hfits
    (Attributes.get?_collect h rfl (List.forall_mem_singleton.2 hform.symm))

theorem carries_redirect (hfits : misshape? .leaf parts = none)
    (h : attributeProblems [.needed "target" .url] false parts.attributes = []) :
    ∃ node, buildRedirect parts = .ok node ∧ node.Carries "redirect" .leaf parts := by
  obtain ⟨target, htarget⟩ :=
    text_of_needed rfl ((attributeProblems_eq_nil_iff.1 h).1 _ List.mem_cons_self)
  have hread : parts.attributes.neededText "redirect" "target" = .ok target := by
    apply Attributes.neededText_eq
    rw [Attributes.text, htarget]; rfl
  refine ⟨_, by rw [buildRedirect, hread]; rfl, ?_⟩
  exact Node.carries_leaf hfits
    (Attributes.get?_collect h rfl (List.forall_mem_singleton.2 htarget.symm))

theorem carries_references (hfits : misshape? .leaf parts = none)
    (h : attributeProblems [text "group"] false parts.attributes = []) :
    ∃ node, buildReferences parts = .ok node ∧ node.Carries "references" .leaf parts := by
  have hgroup := (attributeProblems_eq_nil_iff.1 h).1 _ List.mem_cons_self
  refine ⟨_, rfl, Node.carries_leaf hfits (Attributes.get?_collect h rfl ?_)⟩
  exact List.forall_mem_singleton.2 (text_of_obeyed rfl hgroup)

theorem carries_math (hfits : misshape? .literal parts = none)
    (h : attributeProblems [.optional "display" (.oneOf (Spelled.literals MathDisplay))] false
      parts.attributes = []) :
    ∃ node, buildMath parts = .ok node ∧ node.Carries "math" .literal parts := by
  obtain ⟨display, hdisplay⟩ :=
    literal_of_optional ((attributeProblems_eq_nil_iff.1 h).1 _ List.mem_cons_self)
  have hread : parts.attributes.optionalLiteral "math" "display" = .ok display := by
    apply Attributes.optionalLiteral_eq
    rw [Attributes.text, hdisplay]
    cases display <;> rfl
  refine ⟨_, by rw [buildMath, hread]; rfl, ?_⟩
  exact Node.carries_literal hfits
    (Attributes.get?_collect h rfl (List.forall_mem_singleton.2 hdisplay.symm))

theorem carries_syntaxHighlight (hfits : misshape? .literal parts = none)
    (h : attributeProblems highlightRules false parts.attributes = []) :
    ∃ node, buildSyntaxHighlight parts = .ok node ∧ node.Carries "syntaxHighlight" .literal parts := by
  have hobeys := (attributeProblems_eq_nil_iff.1 h).1
  simp only [Obeys, highlightRules, List.forall_mem_cons] at hobeys
  obtain ⟨hlang, hinline, hline, hstart, hhighlight, -⟩ := hobeys
  refine ⟨_, rfl, Node.carries_literal hfits (Attributes.get?_collect h rfl ?_)⟩
  simp only [Attributes.Holds, HighlightOptions.fields, List.forall_mem_cons]
  exact ⟨text_of_obeyed rfl hlang, flag_of_obeyed rfl hinline, flag_of_obeyed rfl hline,
    int_of_obeyed rfl hstart, text_of_obeyed rfl hhighlight, List.forall_mem_nil _⟩

/-- A gallery of texts reports them as they were given; an option that is not a text is refused. -/
theorem carries_gallery (hfits : misshape? .parent parts = none) :
    (∃ node, buildGallery parts = .ok node ∧ node.Carries "gallery" .parent parts) ∨
      ∃ entry ∈ parts.attributes.entries, entry.2.asText = none ∧
        buildGallery parts = .error (.invalidAttribute "gallery" entry.1 .galleryOption) := by
  -- the rules of a gallery do not matter here: they admit any further option, of any type
  cases hfind : parts.attributes.entries.find? fun entry => entry.2.asText.isNone with
  | some entry =>
    refine Or.inr ⟨entry, List.mem_of_find?_eq_some hfind, ?_, by simp only [buildGallery, hfind]⟩
    simpa using List.find?_some hfind
  | none =>
    refine Or.inl ⟨_, by simp only [buildGallery, hfind]; rfl, ?_⟩
    refine Node.carries_parent (by simp) hfits fun name => ?_
    have hsame : (parts.attributes.mapValues fun value => value.asText.getD "").mapValues
        AttrValue.text = parts.attributes := by
      apply OrderedMap.ext_entries
      change (parts.attributes.entries.map _).map _ = parts.attributes.entries
      rw [List.map_map]
      refine (List.map_congr_left fun entry hentry => ?_).trans (List.map_id _)
      have htext := List.find?_eq_none.1 hfind entry hentry
      obtain ⟨name, value⟩ := entry
      cases value with
      | text text => rfl
      | _ => exact absurd rfl htext
    exact congrArg (OrderedMap.get? · name) hsame

/-! ### All of them -/

/-- What the constructor of a definition makes of parts that fit it: a node that carries them or, of a
gallery, the error that an option is not a text. -/
def BuildsFrom (parts : Parts) (d : KindDef) : Prop :=
  misshape? d.shape parts = none → d.problems parts.attributes = [] → ∃ build, d.build = some build ∧
    ((∃ node, build parts = .ok node ∧ node.Carries d.kind d.shape parts) ∨
      d.kind = "gallery" ∧ ∃ entry ∈ parts.attributes.entries, entry.2.asText = none ∧
        build parts = .error (.invalidAttribute "gallery" entry.1 .galleryOption))

theorem BuildsFrom.of_carries {d : KindDef} {build : Constructor} (hbuild : d.build = some build)
    (h : misshape? d.shape parts = none → attributeProblems d.rules d.isOpen parts.attributes = [] →
      ∃ node, build parts = .ok node ∧ node.Carries d.kind d.shape parts) : BuildsFrom parts d :=
  fun hfits hproblems => ⟨build, hbuild, Or.inl (h hfits hproblems)⟩

theorem buildsFrom_blockKinds (parts : Parts) : ∀ d ∈ blockKinds, BuildsFrom parts d := by
  simp only [blockKinds, List.forall_mem_cons]
  refine ⟨?root, ?paragraph, ?heading, ?thematicBreak, ?blockquote, ?list, ?listItem, ?table, ?tableRow,
    ?tableCell, ?html, ?code, List.forall_mem_nil _⟩
  case root => exact .of_carries rfl (carries_fromChildren (by simp) rfl)
  case paragraph => exact .of_carries rfl (carries_fromChildren (by simp) rfl)
  case heading => exact .of_carries rfl carries_heading
  case thematicBreak => exact .of_carries rfl (carries_fromNothing rfl)
  case blockquote => exact .of_carries rfl (carries_fromChildren (by simp) rfl)
  case list => exact .of_carries rfl carries_list
  case listItem => exact .of_carries rfl carries_listItem
  case table => exact .of_carries rfl carries_table
  case tableRow => exact .of_carries rfl (carries_fromChildren (by simp) rfl)
  case tableCell => exact .of_carries rfl (carries_fromChildren (by simp) rfl)
  case html => exact .of_carries rfl (carries_fromValue rfl)
  case code => exact .of_carries rfl carries_code

theorem buildsFrom_phrasingKinds (parts : Parts) : ∀ d ∈ phrasingKinds, BuildsFrom parts d := by
  simp only [phrasingKinds, List.forall_mem_cons]
  refine ⟨?text, ?emphasis, ?strong, ?delete, ?inlineCode, ?lineBreak, ?link, ?linkReference, ?footnote,
    ?footnoteReference, List.forall_mem_nil _⟩
  case text => exact .of_carries rfl (carries_fromValue rfl)
  case emphasis => exact .of_carries rfl (carries_fromChildren (by simp) rfl)
  case strong => exact .of_carries rfl (carries_fromChildren (by simp) rfl)
  case delete => exact .of_carries rfl (carries_fromChildren (by simp) rfl)
  case inlineCode => exact .of_carries rfl (carries_fromValue rfl)
  case lineBreak => exact .of_carries rfl (carries_fromNothing rfl)
  case link => exact .of_carries rfl carries_link
  case linkReference => exact .of_carries rfl carries_linkReference
  case footnote => exact .of_carries rfl (carries_fromChildren (by simp) rfl)
  case footnoteReference => exact .of_carries rfl carries_footnoteReference

theorem buildsFrom_definitionKinds (parts : Parts) : ∀ d ∈ definitionKinds, BuildsFrom parts d := by
  simp only [definitionKinds, List.forall_mem_cons]
  refine ⟨?definition, ?footnoteDefinition, List.forall_mem_nil _⟩
  case definition => exact .of_carries rfl carries_definition
  case footnoteDefinition => exact .of_carries rfl carries_footnoteDefinition

theorem buildsFrom_dialectKinds (parts : Parts) : ∀ d ∈ dialectKinds, BuildsFrom parts d := by
  simp only [dialectKinds, List.forall_mem_cons]
  refine ⟨?image, ?file, ?gallery, ?signature, ?redirect, ?toc, ?nowiki, ?references, ?math,
    ?syntaxHighlight, List.forall_mem_nil _⟩
  case image => exact .of_carries rfl carries_image
  case file => exact .of_carries rfl carries_file
  case gallery =>
    intro hfits _
    exact ⟨_, rfl, (carries_gallery hfits).imp_right fun h => ⟨rfl, h⟩⟩
  case signature => exact .of_carries rfl carries_signature
  case redirect => exact .of_carries rfl carries_redirect
  case toc => exact .of_carries rfl (carries_fromNothing rfl)
  case nowiki => exact .of_carries rfl (carries_fromValue rfl)
  case references => exact .of_carries rfl carries_references
  case math => exact .of_carries rfl carries_math
  case syntaxHighlight => exact .of_carries rfl carries_syntaxHighlight

theorem buildsFrom_kinds (parts : Parts) {d : KindDef} (hd : d ∈ kinds) : BuildsFrom parts d := by
  rw [kinds, List.mem_append, List.mem_append, List.mem_append] at hd
  rcases hd with ((hd | hd) | hd) | hd
  · exact buildsFrom_blockKinds parts d hd
  · exact buildsFrom_phrasingKinds parts d hd
  · exact buildsFrom_definitionKinds parts d hd
  · exact buildsFrom_dialectKinds parts d hd

end Baseline

/-- Parts of which a node is built have passed the checks. -/
theorem KindDef.checked_of_construct {d : KindDef} {parts : Parts} {node : Node}
    (h : d.construct parts = .ok node) :
    misshape? d.shape parts = none ∧ d.problems parts.attributes = [] := by
  unfold construct at h
  split at h
  · cases h
  · next hfits =>
    split at h
    · cases h
    · next hproblems => exact ⟨hfits, hproblems⟩

/-- Of parts that pass the checks a built-in definition builds a node that carries them, unless it is
that of a gallery and an option is not a text. -/
theorem construct_checked {d : KindDef} (hd : d ∈ Baseline.kinds) {parts : Parts}
    (hfits : KindDef.misshape? d.shape parts = none) (hproblems : d.problems parts.attributes = []) :
    (∃ node, d.construct parts = .ok node ∧ node.Carries d.kind d.shape parts) ∨
      d.kind = "gallery" ∧ ∃ entry ∈ parts.attributes.entries, entry.2.asText = none ∧
        d.construct parts = .error (.invalidAttribute "gallery" entry.1 .galleryOption) := by
  obtain ⟨build, hbuild, hbuilt⟩ := Baseline.buildsFrom_kinds parts hd hfits hproblems
  have hconstruct : d.construct parts = build parts := by
    simp only [KindDef.construct, hfits, hproblems, hbuild]
  rw [hconstruct]
  exact hbuilt

/-- A built-in node carries the parts it was built from. -/
theorem Node.carries_of_construct {d : KindDef} (hd : d ∈ Baseline.kinds) {parts : Parts} {node : Node}
    (h : d.construct parts = .ok node) : node.Carries d.kind d.shape parts := by
  obtain ⟨hfits, hproblems⟩ := KindDef.checked_of_construct h
  rcases construct_checked hd hfits hproblems with ⟨built, hbuilt, hcarries⟩ | ⟨-, _, -, -, herror⟩
  · rw [h] at hbuilt
    cases hbuilt
    exact hcarries
  · rw [h] at herror
    cases herror

end WikiDoc
