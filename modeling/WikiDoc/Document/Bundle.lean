import WikiDoc.Document.BuildError

/-!
Bundles of attributes that several node kinds share.

Each bundle lists its `fields` as attributes, has `rules` for them and reads itself back with
`ofAttributes`. A field that is absent is listed without a value and so does not become an attribute.
-/

namespace WikiDoc

/-- How a reference spells out its label. -/
inductive ReferenceType where
  | shortcut
  | collapsed
  | full
  deriving DecidableEq

instance : Spelled ReferenceType where
  values := [.shortcut, .collapsed, .full]
  spelling
    | .shortcut => "shortcut"
    | .collapsed => "collapsed"
    | .full => "full"

/-- A locator: what links, media and definitions point to. -/
structure Resource where
  url : String
  title : Option String := none
  deriving DecidableEq

namespace Resource

/-- The rules of the bundle. -/
def rules : List AttributeRule := [.needed "url" .url, .optional "title" .text]

/-- The bundle as attributes. -/
def fields (r : Resource) : List (String × Option AttrValue) :=
  [("url", some (.text r.url)), ("title", r.title.map .text)]

/-- Reads the bundle for a node of the kind. -/
def ofAttributes (kind : String) (attrs : Attributes) : Except BuildError Resource := do
  let url ← attrs.neededText kind "url"
  return { url, title := attrs.text "title" }

end Resource

/-- What ties a definition to the references that point at it. -/
structure Association where
  identifier : String
  label : Option String := none
  deriving DecidableEq

namespace Association

/-- The rules of the bundle. -/
def rules : List AttributeRule := [.needed "identifier" .text, .optional "label" .text]

/-- The bundle as attributes. -/
def fields (a : Association) : List (String × Option AttrValue) :=
  [("identifier", some (.text a.identifier)), ("label", a.label.map .text)]

/-- Reads the bundle for a node of the kind. -/
def ofAttributes (kind : String) (attrs : Attributes) : Except BuildError Association := do
  let identifier ← attrs.neededText kind "identifier"
  return { identifier, label := attrs.text "label" }

end Association

/-- An association that is looked up among the definitions. -/
structure Reference where
  association : Association
  referenceType : ReferenceType
  deriving DecidableEq

namespace Reference

/-- The identifier of the definition that is looked up. -/
def identifier (r : Reference) : String := r.association.identifier

/-- The rules of the bundle. -/
def rules : List AttributeRule :=
  Association.rules ++ [.needed "referenceType" (.oneOf (Spelled.literals ReferenceType))]

/-- The bundle as attributes. -/
def fields (r : Reference) : List (String × Option AttrValue) :=
  r.association.fields ++ [("referenceType", some (Spelled.toValue r.referenceType))]

/-- Reads the bundle for a node of the kind. -/
def ofAttributes (kind : String) (attrs : Attributes) : Except BuildError Reference := do
  let association ← Association.ofAttributes kind attrs
  let referenceType ← attrs.neededLiteral kind "referenceType"
  return { association, referenceType }

end Reference

/-- Text that stands in for media. -/
structure Alternative where
  alt : Option String := none
  deriving DecidableEq

namespace Alternative

/-- The rules of the bundle. -/
def rules : List AttributeRule := [.optional "alt" .text]

/-- The bundle as attributes. -/
def fields (a : Alternative) : List (String × Option AttrValue) := [("alt", a.alt.map .text)]

/-- Reads the bundle. -/
def ofAttributes (attrs : Attributes) : Alternative := { alt := attrs.text "alt" }

end Alternative

end WikiDoc
