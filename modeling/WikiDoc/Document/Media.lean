import WikiDoc.Attribute.Form
import WikiDoc.Document.Bundle

/-!
Embedded images and files.

The options of an embed are kept as they were written; its rules say which spellings are legal.
-/

namespace WikiDoc

/-- The presentation options of an embed. -/
structure MediaOptions where
  /-- Frame style. -/
  kind : Option String := none
  /-- Horizontal placement. -/
  location : Option String := none
  /-- Vertical alignment against the text. -/
  alignment : Option String := none
  /-- Size or upright factor. -/
  size : Option String := none
  /-- Target in place of the description page of the file. -/
  link : Option String := none
  /-- Page of a file with several pages. -/
  page : Option String := none
  /-- Language of a file with several languages. -/
  lang : Option String := none
  caption : Option String := none
  deriving DecidableEq

/-- An embedded image or file. -/
structure Media where
  resource : Resource
  alternative : Alternative := {}
  options : MediaOptions := {}
  deriving DecidableEq

namespace Media

/-- The legal frame styles. -/
def kinds : List String := ["thumb", "thumbnail", "frame", "framed", "frameless", "border"]

/-- The legal horizontal placements. -/
def locations : List String := ["left", "right", "center", "none"]

/-- The legal vertical alignments. -/
def alignments : List String :=
  ["baseline", "sub", "super", "top", "text-top", "middle", "bottom", "text-bottom"]

/-- The constraint on media sizes. -/
def size : Constraint :=
  .pattern "<n>px, x<n>px, <n>x<n>px, upright or upright=<number>" Form.isMediaSize

/-- The rules of the presentation options. -/
def optionRules : List AttributeRule :=
  [.optional "kind" (.oneOf kinds), .optional "location" (.oneOf locations),
    .optional "alignment" (.oneOf alignments), .optional "size" size, .optional "link" .text,
    .optional "page" .text, .optional "lang" .text, .optional "caption" .text]

/-- The rules of an embed. -/
def rules : List AttributeRule := Resource.rules ++ Alternative.rules ++ optionRules

/-- The presentation options as attributes. -/
def optionFields (o : MediaOptions) : List (String × Option AttrValue) :=
  [("kind", o.kind.map .text), ("location", o.location.map .text),
    ("alignment", o.alignment.map .text), ("size", o.size.map .text), ("link", o.link.map .text),
    ("page", o.page.map .text), ("lang", o.lang.map .text), ("caption", o.caption.map .text)]

/-- An embed as attributes. -/
def fields (m : Media) : List (String × Option AttrValue) :=
  m.resource.fields ++ m.alternative.fields ++ optionFields m.options

/-- Reads the presentation options. -/
def optionsOfAttributes (attrs : Attributes) : MediaOptions where
  kind := attrs.text "kind"
  location := attrs.text "location"
  alignment := attrs.text "alignment"
  size := attrs.text "size"
  link := attrs.text "link"
  page := attrs.text "page"
  lang := attrs.text "lang"
  caption := attrs.text "caption"

/-- Reads an embed for a node of the kind. -/
def ofAttributes (kind : String) (attrs : Attributes) : Except BuildError Media := do
  let resource ← Resource.ofAttributes kind attrs
  return {
    resource
    alternative := Alternative.ofAttributes attrs
    options := optionsOfAttributes attrs }

end Media

end WikiDoc
