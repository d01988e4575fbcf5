import WikiDoc.Document.Media
import WikiDoc.Document.Shape

/-!
Nodes of a wiki document.

A node has children, or a value, or neither, and its tag says which kind it is and holds the data of
that kind. Kinds outside the built-in ones come from extensions: such a node reports its own kind,
shape, attributes, value and children. `kind`, `shape`, `children`, `value` and `attributes` read any
node in the same way; `parts` collects what it takes to build the node again.
-/

namespace WikiDoc

/-- The alignment of a table column. -/
inductive Alignment where
  | left
  | right
  | center
  | none
  deriving DecidableEq

instance : Spelled Alignment where
  values := [.left, .right, .center, .none]
  spelling
    | .left => "left"
    | .right => "right"
    | .center => "center"
    | .none => "none"

/-- What a signature expands to. -/
inductive SignatureForm where
  | user
  | userAndDate
  | date
  deriving DecidableEq

instance : Spelled SignatureForm where
  values := [.user, .userAndDate, .date]
  spelling
    | .user => "user"
    | .userAndDate => "userAndDate"
    | .date => "date"

/-- How a formula is set. -/
inductive MathDisplay where
  | inline
  | block
  deriving DecidableEq

instance : Spelled MathDisplay where
  values := [.inline, .block]
  spelling
    | .inline => "inline"
    | .block => "block"

/-- The data of a list. -/
structure ListOptions where
  /-- Whether the items are numbered. -/
  ordered : Option Bool := none
  /-- Whether blank lines separate the items. -/
  spread : Option Bool := none
  /-- The number of the first item. -/
  start : Option UInt32 := none
  /-- Whether the items are terms and descriptions. -/
  definition : Option Bool := none
  deriving DecidableEq

/-- The data of a list item. -/
structure ItemOptions where
  /-- Whether the item holds blank lines. -/
  spread : Option Bool := none
  /-- Whether the box of the item is checked, if it has one. -/
  checked : Option Bool := none
  deriving DecidableEq

/-- The data of highlighted source text. -/
structure HighlightOptions where
  lang : Option String := none
  /-- Whether the source stands within a line. -/
  inline : Option Bool := none
  /-- Whether line numbers are shown. -/
  line : Option Bool := none
  /-- The number of the first line. -/
  start : Option Int := none
  /-- The lines to emphasize. -/
  highlight : Option String := none
  deriving DecidableEq

/-- The built-in kinds of nodes with children. -/
inductive ParentTag where
  | root
  | paragraph
  | heading (depth : UInt8)
  | blockquote
  | list (options : ListOptions)
  | listItem (options : ItemOptions)
  | table (align : List Alignment)
  | tableRow
  | tableCell
  | emphasis
  | strong
  | delete
  | link (resource : Resource)
  | linkReference (reference : Reference)
  | footnote
  | footnoteDefinition (association : Association)
  | gallery (options : OrderedMap String String)
  deriving DecidableEq

/-- The built-in kinds of nodes with a value. -/
inductive LiteralTag where
  | html
  | code (lang info : Option String)
  | text
  | inlineCode
  | nowiki
  | math (display : Option MathDisplay)
  | syntaxHighlight (options : HighlightOptions)
  deriving DecidableEq

/-- The built-in kinds of nodes with neither children nor a value. -/
inductive LeafTag where
  | thematicBreak
  | lineBreak
  | footnoteReference (reference : Reference)
  | definition (association : Association) (resource : Resource)
  | image (media : Media)
  | file (media : Media)
  | signature (form : SignatureForm)
  | redirect (target : String)
  | toc
  | references (group : Option String)
  deriving DecidableEq

/-- What a node of an extension reports of itself, its children apart. -/
structure Custom where
  /-- The extension that the node comes from; nodes of two extensions are never equal. -/
  origin : String
  kind : String
  shape : Shape
  attributes : Attributes := OrderedMap.empty
  value : Option String := none

/-- A node of a wiki document, with the tree below it. -/
inductive Node where
  | parent (tag : ParentTag) (children : List Node)
  | literal (tag : LiteralTag) (value : String)
  | leaf (tag : LeafTag)
  | custom (info : Custom) (children : List Node)

/-- The name of the kind. -/
def ParentTag.kind : ParentTag → String
  | .root => "root"
  | .paragraph => "paragraph"
  | .heading _ => "heading"
  | .blockquote => "blockquote"
  | .list _ => "list"
  | .listItem _ => "listItem"
  | .table _ => "table"
  | .tableRow => "tableRow"
  | .tableCell => "tableCell"
  | .emphasis => "emphasis"
  | .strong => "strong"
  | .delete => "delete"
  | .link _ => "link"
  | .linkReference _ => "linkReference"
  | .footnote => "footnote"
  | .footnoteDefinition _ => "footnoteDefinition"
  | .gallery _ => "gallery"

/-- The name of the kind. -/
def LiteralTag.kind : LiteralTag → String
  | .html => "html"
  | .code _ _ => "code"
  | .text => "text"
  | .inlineCode => "inlineCode"
  | .nowiki => "nowiki"
  | .math _ => "math"
  | .syntaxHighlight _ => "syntaxHighlight"

/-- The name of the kind. -/
def LeafTag.kind : LeafTag → String
  | .thematicBreak => "thematicBreak"
  | .lineBreak => "break"
  | .footnoteReference _ => "footnoteReference"
  | .definition _ _ => "definition"
  | .image _ => "image"
  | .file _ => "file"
  | .signature _ => "signature"
  | .redirect _ => "redirect"
  | .toc => "toc"
  | .references _ => "references"

/-- The data of a list as attributes. -/
def ListOptions.fields (o : ListOptions) : List (String × Option AttrValue) :=
  [("ordered", o.ordered.map .bool), ("spread", o.spread.map .bool),
    ("start", o.start.map fun start => .int start.toNat), ("definition", o.definition.map .bool)]

/-- The data of a list item as attributes. -/
def ItemOptions.fields (o : ItemOptions) : List (String × Option AttrValue) :=
  [("spread", o.spread.map .bool), ("checked", o.checked.map .bool)]

/-- The data of highlighted source as attributes. -/
def HighlightOptions.fields (o : HighlightOptions) : List (String × Option AttrValue) :=
  [("lang", o.lang.map .text), ("inline", o.inline.map .bool), ("line", o.line.map .bool),
    ("start", o.start.map .int), ("highlight", o.highlight.map .text)]

/-- The attributes of a node with the tag; a table without alignments has none. -/
def ParentTag.attributes : ParentTag → Attributes
  | .heading depth => .collect [("depth", some (.int depth.toNat))]
  | .list options => .collect options.fields
  | .listItem options => .collect options.fields
  | .table [] => OrderedMap.empty
  | .table align => .collect [("align", some (.list (align.map Spelled.toValue)))]
  | .link resource => .collect resource.fields
  | .linkReference reference => .collect reference.fields
  | .footnoteDefinition association => .collect association.fields
  | .gallery options => options.mapValues .text
  | .root | .paragraph | .blockquote | .tableRow | .tableCell | .emphasis | .strong | .delete
  | .footnote => OrderedMap.empty

/-- The attributes of a node with the tag. -/
def LiteralTag.attributes : LiteralTag → Attributes
  | .code lang info => .collect [("lang", lang.map .text), ("meta", info.map .text)]
  | .math display => .collect [("display", display.map Spelled.toValue)]
  | .syntaxHighlight options => .collect options.fields
  | .html | .text | .inlineCode | .nowiki => OrderedMap.empty

/-- The attributes of a node with the tag. -/
def LeafTag.attributes : LeafTag → Attributes
  | .footnoteReference reference => .collect reference.fields
  | .definition association resource => .collect (association.fields ++ resource.fields)
  | .image media => .collect media.fields
  | .file media => .collect media.fields
  | .signature form => .collect [("kind", some (Spelled.toValue form))]
  | .redirect target => .collect [("target", some (.text target))]
  | .references group => .collect [("group", group.map .text)]
  | .thematicBreak | .lineBreak | .toc => OrderedMap.empty

/-- What a node is built from: attributes, children and value. -/
structure Parts where
  attributes : Attributes := OrderedMap.empty
  children : List Node := []
  value : Option String := none

namespace Node

instance : Inhabited Node := ⟨.parent .root []⟩

/-- The name of the node's kind. -/
def kind : Node → String
  | .parent tag _ => tag.kind
  | .literal tag _ => tag.kind
  | .leaf tag => tag.kind
  | .custom info _ => info.kind

/-- The shape that the node declares. -/
def shape : Node → Shape
  | .parent _ _ => .parent
  | .literal _ _ => .literal
  | .leaf _ => .leaf
  | .custom info _ => info.shape

/-- The children, in document order. -/
def children : Node → List Node
  | .parent _ children => children
  | .custom _ children => children
  | .literal _ _ | .leaf _ => []

/-- The value of a literal node. -/
def value : Node → Option String
  | .literal _ value => some value
  | .custom info _ => info.value
  | .parent _ _ | .leaf _ => none

/-- The attributes. -/
def attributes : Node → Attributes
  | .parent tag _ => tag.attributes
  | .literal tag _ => tag.attributes
  | .leaf tag => tag.attributes
  | .custom info _ => info.attributes

/-- The parts from which the node can be built again. -/
def parts (node : Node) : Parts where
  attributes := node.attributes
  children := node.children
  value := node.value

/-- The shape that the node has, whatever it declares: children make it a parent, a value a literal. -/
def observedShape (node : Node) : Shape :=
  if !node.children.isEmpty then .parent
  else if node.value.isSome then .literal
  else node.shape

/-- The extension that the node comes from, if it is not of a built-in kind. -/
def origin? : Node → Option String
  | .custom info _ => some info.origin
  | _ => none

end Node

end WikiDoc
