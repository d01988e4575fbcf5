import WikiDoc.Proofs.Attribute.Conformance
import WikiDoc.Proofs.Kind.RoundTrip

/-!
Built-in nodes and the definitions of their kinds agree.

What a built-in node reports of itself and what the table of kinds says are written down independently of
each other. They agree on names, shapes, requiredness and types: with the attributes of a node the
definition of its kind has exactly the problems that the flaws of its data lead to (`conforms_node`).
-/

namespace WikiDoc

/-! ### The flaws of a node -/

/-- What can be wrong with the data of a tag. The options of a gallery are found by name. -/
def ParentTag.flaws : ParentTag → List Flaw
  | .heading depth => rangeFlaws "depth" 1 6 depth.toNat
  | .link resource => lineFlaws "url" resource.url
  | .gallery options =>
    literalFlaws "mode" Baseline.galleryModes (options.get? "mode") ++
      formFlaws "perrow" "a positive integer" Form.isPositiveInteger (options.get? "perrow") ++
      formFlaws "widths" "<n> or <n>px" Form.isPixelLength (options.get? "widths") ++
      formFlaws "heights" "<n> or <n>px" Form.isPixelLength (options.get? "heights")
  | .root | .paragraph | .blockquote | .list _ | .listItem _ | .table _ | .tableRow | .tableCell
  | .emphasis | .strong | .delete | .linkReference _ | .footnote | .footnoteDefinition _ => []

/-- What can be wrong with the data of a tag. -/
def LeafTag.flaws : LeafTag → List Flaw
  | .definition _ resource => lineFlaws "url" resource.url
  | .image media | .file media => media.flaws
  | .redirect target => lineFlaws "target" target
  | .thematicBreak | .lineBreak | .footnoteReference _ | .signature _ | .toc | .references _ => []

/-- What is wrong with the data of a built-in node; that of a node with a value cannot be wrong. -/
def Node.flaws : Node → List Flaw
  | .parent tag _ => tag.flaws
  | .leaf tag => tag.flaws
  | .literal _ _ | .custom _ _ => []

namespace Baseline

/-! ### The problems of each kind with the data of its nodes -/

theorem problems_heading (depth : UInt8) :
    fieldProblems [.needed "depth" (.range 1 6)] [("depth", some (.int depth.toNat))] =
      (rangeFlaws "depth" 1 6 depth.toNat).map Flaw.problem := by
  simp [fieldProblems]

/-- The number of a first item fits in 32 bits, as the rule of a list asks. -/
theorem problems_list (options : ListOptions) : fieldProblems listRules options.fields = [] := by
  have hstart : ∀ start : UInt32, (Constraint.range 0 4294967295).rejection? (.int start.toNat) = none := by
    intro start
    have hlow : ¬ (start.toNat : Int) < 0 := by omega
    have hhigh : ¬ (4294967295 : Int) < start.toNat := by
      have := start.toNat_lt
      omega
    simp [Constraint.range, Constraint.rejection?, Constraint.expect, AttrValue.asInt,
      Constraint.outside?, Option.filter, hlow, hhigh]
  simp [listRules, ListOptions.fields, fieldProblems, flag,
    AttributeRule.problemWith?_map "start" hstart]

theorem problems_listItem (options : ItemOptions) :
    fieldProblems [flag "spread", flag "checked"] options.fields = [] := by
  simp [ItemOptions.fields, fieldProblems, flag]

/-- A table holds its alignments, or nothing if there are none. -/
theorem problems_table (align : List Alignment) :
    attributeProblems [.optional "align" (.listOf (.oneOf (Spelled.literals Alignment)))] false
      (ParentTag.table align).attributes = [] := by
  cases align with
  | nil => rfl
  | cons alignment align =>
    refine (attributeProblems_collect rfl (by decide)).trans ?_
    rw [fieldProblems,
      AttributeRule.problemWith?_of_accepted (Constraint.accepts_toValues (alignment :: align))]
    rfl

theorem problems_code (lang info : Option String) :
    fieldProblems [text "lang", text "meta"] [("lang", lang.map .text), ("meta", info.map .text)] =
      [] := by
  simp [fieldProblems, text]

theorem problems_definition (association : Association) (resource : Resource) :
    fieldProblems (Association.rules ++ Resource.rules) (association.fields ++ resource.fields) =
      (lineFlaws "url" resource.url).map Flaw.problem := by
  rw [fieldProblems_append rfl, Association.fieldProblems_fields, Resource.fieldProblems_fields,
    List.nil_append]

/-- A gallery admits further options, so that only those with a rule can be wrong. -/
theorem problems_gallery (options : OrderedMap String String) :
    attributeProblems galleryRules true (ParentTag.gallery options).attributes =
      (ParentTag.gallery options).flaws.map Flaw.problem := by
  have hholds : (ParentTag.gallery options).attributes.Holds
      (["mode", "perrow", "widths", "heights", "caption"].map fun name =>
        (name, (options.get? name).map .text)) := by
    intro field hfield
    obtain ⟨name, -, rfl⟩ := List.mem_map.1 hfield
    exact (options.get?_mapValues AttrValue.text name).symm
  refine (attributeProblems_of_holds rfl hholds (fun h => by cases h)).trans ?_
  simp [galleryRules, pixelLength, text, fieldProblems, ParentTag.flaws]

theorem problems_signature (form : SignatureForm) :
    fieldProblems [.needed "kind" (.oneOf (Spelled.literals SignatureForm))]
      [("kind", some (Spelled.toValue form))] = [] := by
  simp [fieldProblems]

theorem problems_redirect (target : String) :
    fieldProblems [.needed "target" .url] [("target", some (.text target))] =
      (lineFlaws "target" target).map Flaw.problem := by
  simp [fieldProblems]

theorem problems_references (group : Option String) :
    fieldProblems [text "group"] [("group", group.map .text)] = [] := by
  simp [fieldProblems, text]

theorem problems_math (display : Option MathDisplay) :
    fieldProblems [.optional "display" (.oneOf (Spelled.literals MathDisplay))]
      [("display", display.map Spelled.toValue)] = [] := by
  simp [fieldProblems]

theorem problems_syntaxHighlight (options : HighlightOptions) :
    fieldProblems highlightRules options.fields = [] := by
  simp [highlightRules, HighlightOptions.fields, fieldProblems, text, flag]

/-! ### All of them -/

/-- The definition of the kind has the shape, and with the attributes it has the problems that the flaws
lead to. -/
def Conforms (kind : String) (shape : Shape) (attributes : Attributes) (flaws : List Flaw) : Prop :=
  ∃ d, definition? kind = some d ∧ d.shape = shape ∧ d.problems attributes = flaws.map Flaw.problem

/-- No definition has two rules for one attribute. -/
theorem nodup_rules : ∀ d ∈ kinds, (d.rules.map AttributeRule.name).Nodup := by decide

section

variable {kind : String} {shape : Shape} {d : KindDef}

/-- A kind without attributes. -/
theorem Conforms.of_nothing (hd : definition? kind = some d) (hshape : d.shape = shape)
    (hrules : d.rules = []) : Conforms kind shape OrderedMap.empty [] := by
  refine ⟨d, hd, hshape, ?_⟩
  rw [KindDef.problems, hrules]
  cases d.isOpen <;> rfl

/-- A kind whose attributes are collected field by field, in the order of its rules. -/
theorem Conforms.of_fields {fields : List (String × Option AttrValue)} {flaws : List Flaw}
    (hd : definition? kind = some d) (hshape : d.shape = shape)
    (hnames : fields.map Prod.fst = d.rules.map AttributeRule.name)
    (hproblems : fieldProblems d.rules fields = flaws.map Flaw.problem) :
    Conforms kind shape (.collect fields) flaws := by
  have hnodup := nodup_rules d (List.mem_of_find?_eq_some hd)
  exact ⟨d, hd, hshape, (attributeProblems_collect hnames hnodup).trans hproblems⟩

end

theorem conforms_parent (tag : ParentTag) : Conforms tag.kind .parent tag.attributes tag.flaws := by
  cases tag with
  | root => exact .of_nothing rfl rfl rfl
  | paragraph => exact .of_nothing rfl rfl rfl
  | heading depth => exact .of_fields rfl rfl rfl (problems_heading depth)
  | blockquote => exact .of_nothing rfl rfl rfl
  | list options => exact .of_fields rfl rfl rfl (problems_list options)
  | listItem options => exact .of_fields rfl rfl rfl (problems_listItem options)
  | table align => exact ⟨_, rfl, rfl, problems_table align⟩
  | tableRow => exact .of_nothing rfl rfl rfl
  | tableCell => exact .of_nothing rfl rfl rfl
  | emphasis => exact .of_nothing rfl rfl rfl
  | strong => exact .of_nothing rfl rfl rfl
  | delete => exact .of_nothing rfl rfl rfl
  | link resource => exact .of_fields rfl rfl rfl resource.fieldProblems_fields
  | linkReference reference => exact .of_fields rfl rfl rfl reference.fieldProblems_fields
  | footnote => exact .of_nothing rfl rfl rfl
  | footnoteDefinition association => exact .of_fields rfl rfl rfl association.fieldProblems_fields
  | gallery options => exact ⟨_, rfl, rfl, problems_gallery options⟩

theorem conforms_literal (tag : LiteralTag) : Conforms tag.kind .literal tag.attributes [] := by
  cases tag with
  | html => exact .of_nothing rfl rfl rfl
  | code lang info => exact .of_fields rfl rfl rfl (problems_code lang info)
  | text => exact .of_nothing rfl rfl rfl
  | inlineCode => exact .of_nothing rfl rfl rfl
  | nowiki => exact .of_nothing rfl rfl rfl
  | math display => exact .of_fields rfl rfl rfl (problems_math display)
  | syntaxHighlight options => exact .of_fields rfl rfl rfl (problems_syntaxHighlight options)

theorem conforms_leaf (tag : LeafTag) : Conforms tag.kind .leaf tag.attributes tag.flaws := by
  cases tag with
  | thematicBreak => exact .of_nothing rfl rfl rfl
  | lineBreak => exact .of_nothing rfl rfl rfl
  | footnoteReference reference => exact .of_fields rfl rfl rfl reference.fieldProblems_fields
  | definition association resource =>
    exact .of_fields rfl rfl rfl (problems_definition association resource)
  | image media => exact .of_fields rfl rfl rfl media.fieldProblems_fields
  | file media => exact .of_fields rfl rfl rfl media.fieldProblems_fields
  | signature form => exact .of_fields rfl rfl rfl (problems_signature form)
  | redirect target => exact .of_fields rfl rfl rfl (problems_redirect target)
  | toc => exact .of_nothing rfl rfl rfl
  | references group => exact .of_fields rfl rfl rfl (problems_references group)

/-- A built-in node has the shape of its kind and no problems but those of its flaws. -/
theorem conforms_node {node : Node} (h : node.origin? = none) :
    Conforms node.kind node.shape node.attributes node.flaws := by
  cases node with
  | parent tag children => exact conforms_parent tag
  | literal tag value => exact conforms_literal tag
  | leaf tag => exact conforms_leaf tag
  | custom info children => cases h

end Baseline

end WikiDoc
