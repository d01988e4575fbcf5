import WikiDoc.Kind.Definition

/-!
The built-in node kinds.

Links hold static phrasing, which has no links among its members, so that a link is never the child of
another. The `dialect` kinds are at home both among blocks and within text.
-/

namespace WikiDoc.Baseline

open Category

/-- An optional flag. -/
def flag (name : String) : AttributeRule := .optional name .bool

/-- An optional text. -/
def text (name : String) : AttributeRule := .optional name .text

/-- Where kinds belong that are legal both as blocks and within text. -/
def dialect : List Category := [block, staticPhrasing]

/-- The constructor of a kind that has children and no attributes. -/
def fromChildren (tag : ParentTag) : Constructor := fun parts => .ok (.parent tag parts.children)

/-- The constructor of a kind that has a value and no attributes. -/
def fromValue (tag : LiteralTag) : Constructor := fun parts =>
  .ok (.literal tag (parts.value.getD ""))

/-- The constructor of a kind that has neither. -/
def fromNothing (tag : LeafTag) : Constructor := fun _ => .ok (.leaf tag)

/-- Builds a heading; its depth must fit in 8 bits. -/
def buildHeading : Constructor := fun parts =>
  match parts.attributes.int "depth" with
  | some depth =>
    if 0 ≤ depth ∧ depth < 256 then
      .ok (.parent (.heading (UInt8.ofNat depth.toNat)) parts.children)
    else .error (.missingAttribute "heading" "depth")
  | none => .error (.missingAttribute "heading" "depth")

/-- Reads the number of the first item of a list, which must fit in 32 bits. -/
def readStart (attrs : Attributes) : Except BuildError (Option UInt32) :=
  match attrs.int "start" with
  | some start =>
    if 0 ≤ start ∧ start < 4294967296 then .ok (some (UInt32.ofNat start.toNat))
    else .error (.invalidAttribute "list" "start" .listStart)
  | none => .ok none

/-- Builds a list. -/
def buildList : Constructor := fun parts => do
  let start ← readStart parts.attributes
  let options : ListOptions := {
    ordered := parts.attributes.flag "ordered"
    spread := parts.attributes.flag "spread"
    start
    definition := parts.attributes.flag "definition" }
  return .parent (.list options) parts.children

/-- Builds a list item. -/
def buildListItem : Constructor := fun parts =>
  let options : ItemOptions := {
    spread := parts.attributes.flag "spread"
    checked := parts.attributes.flag "checked" }
  .ok (.parent (.listItem options) parts.children)

/-- Reads the alignments of a table; an item that is not text reads as the empty text. -/
def readAlignments : List AttrValue → Except BuildError (List Alignment)
  | [] => .ok []
  | item :: rest => do
    let alignment ← Attributes.readLiteral "table" "align" (item.asText.getD "")
    let alignments ← readAlignments rest
    return alignment :: alignments

/-- Builds a table; anything but a list of alignments counts as none. -/
def buildTable : Constructor := fun parts => do
  let align ← readAlignments (((parts.attributes.get? "align").bind AttrValue.asList).getD [])
  return .parent (.table align) parts.children

/-- Builds a block of code. -/
def buildCode : Constructor := fun parts =>
  .ok (.literal (.code (parts.attributes.text "lang") (parts.attributes.text "meta"))
    (parts.value.getD ""))

/-- Builds a link. -/
def buildLink : Constructor := fun parts => do
  let resource ← Resource.ofAttributes "link" parts.attributes
  return .parent (.link resource) parts.children

/-- Builds a link reference. -/
def buildLinkReference : Constructor := fun parts => do
  let reference ← Reference.ofAttributes "linkReference" parts.attributes
  return .parent (.linkReference reference) parts.children

/-- Builds a footnote reference. -/
def buildFootnoteReference : Constructor := fun parts => do
  let reference ← Reference.ofAttributes "footnoteReference" parts.attributes
  return .leaf (.footnoteReference reference)

/-- Builds a link definition. -/
def buildDefinition : Constructor := fun parts => do
  let association ← Association.ofAttributes "definition" parts.attributes
  let resource ← Resource.ofAttributes "definition" parts.attributes
  return .leaf (.definition association resource)

/-- Builds a footnote definition. -/
def buildFootnoteDefinition : Constructor := fun parts => do
  let association ← Association.ofAttributes "footnoteDefinition" parts.attributes
  return .parent (.footnoteDefinition association) parts.children

/-- Builds an image. -/
def buildImage : Constructor := fun parts => do
  let media ← Media.ofAttributes "image" parts.attributes
  return .leaf (.image media)

/-- Builds a file. -/
def buildFile : Constructor := fun parts => do
  let media ← Media.ofAttributes "file" parts.attributes
  return .leaf (.file media)

/-- Builds a gallery, whose attributes must all be texts. -/
def buildGallery : Constructor := fun parts =>
  match parts.attributes.entries.find? fun entry => entry.2.asText.isNone with
  | some entry => .error (.invalidAttribute "gallery" entry.1 .galleryOption)
  | none =>
    let options := parts.attributes.mapValues fun value => value.asText.getD ""
    .ok (.parent (.gallery options) parts.children)

/-- Builds a signature. -/
def buildSignature : Constructor := fun parts => do
  let form ← parts.attributes.neededLiteral "signature" "kind"
  return .leaf (.signature form)

/-- Builds a redirect. -/
def buildRedirect : Constructor := fun parts => do
  let target ← parts.attributes.neededText "redirect" "target"
  return .leaf (.redirect target)

/-- Builds a list of references. -/
def buildReferences : Constructor := fun parts =>
  .ok (.leaf (.references (parts.attributes.text "group")))

/-- Builds a formula. -/
def buildMath : Constructor := fun parts => do
  let display ← parts.attributes.optionalLiteral "math" "display"
  return .literal (.math display) (parts.value.getD "")

/-- Builds highlighted source. -/
def buildSyntaxHighlight : Constructor := fun parts =>
  let options : HighlightOptions := {
    lang := parts.attributes.text "lang"
    inline := parts.attributes.flag "inline"
    line := parts.attributes.flag "line"
    start := parts.attributes.int "start"
    highlight := parts.attributes.text "highlight" }
  .ok (.literal (.syntaxHighlight options) (parts.value.getD ""))

/-- The legal modes of a gallery. -/
def galleryModes : List String :=
  ["traditional", "nolines", "packed", "packed-overlay", "packed-hover", "slideshow"]

/-- The rules of a list. -/
def listRules : List AttributeRule :=
  [flag "ordered", flag "spread", .optional "start" (.range 0 4294967295), flag "definition"]

/-- The constraint on the lengths in a gallery. -/
def pixelLength : Constraint := .pattern "<n> or <n>px" Form.isPixelLength

/-- The rules of a gallery. -/
def galleryRules : List AttributeRule :=
  [.optional "mode" (.oneOf galleryModes),
    .optional "perrow" (.pattern "a positive integer" Form.isPositiveInteger),
    .optional "widths" pixelLength, .optional "heights" pixelLength, text "caption"]

/-- The rules of highlighted source. -/
def highlightRules : List AttributeRule :=
  [text "lang", flag "inline", flag "line", .optional "start" (.integer none none),
    text "highlight"]

/-- The kinds that stand by themselves or hold other blocks. -/
def blockKinds : List KindDef := [
  { KindDef.parent "root" flow with build := some (fromChildren .root) },
  { KindDef.parent "paragraph" phrasing with
    memberOf := [block], build := some (fromChildren .paragraph) },
  { KindDef.parent "heading" phrasing with
    rules := [.needed "depth" (.range 1 6)], memberOf := [block], build := some buildHeading },
  { KindDef.leaf "thematicBreak" with
    memberOf := [block], build := some (fromNothing .thematicBreak) },
  { KindDef.parent "blockquote" flow with
    memberOf := [block], build := some (fromChildren .blockquote) },
  { KindDef.parent "list" list with
    rules := listRules, memberOf := [block], build := some buildList },
  { KindDef.parent "listItem" flow with
    rules := [flag "spread", flag "checked"], memberOf := [list], build := some buildListItem },
  { KindDef.parent "table" table with
    rules := [.optional "align" (.listOf (.oneOf (Spelled.literals Alignment)))]
    memberOf := [block], build := some buildTable },
  { KindDef.parent "tableRow" row with
    memberOf := [table], build := some (fromChildren .tableRow) },
  { KindDef.parent "tableCell" phrasing with
    memberOf := [row], build := some (fromChildren .tableCell) },
  { KindDef.literal "html" with memberOf := dialect, build := some (fromValue .html) },
  { KindDef.literal "code" with
    rules := [text "lang", text "meta"], memberOf := [block], build := some buildCode }]

/-- The kinds that stand within text. -/
def phrasingKinds : List KindDef := [
  { KindDef.literal "text" with memberOf := [staticPhrasing], build := some (fromValue .text) },
  { KindDef.parent "emphasis" phrasing with
    memberOf := [staticPhrasing], build := some (fromChildren .emphasis) },
  { KindDef.parent "strong" phrasing with
    memberOf := [staticPhrasing], build := some (fromChildren .strong) },
  { KindDef.parent "delete" phrasing with
    memberOf := [staticPhrasing], build := some (fromChildren .delete) },
  { KindDef.literal "inlineCode" with
    memberOf := [staticPhrasing], build := some (fromValue .inlineCode) },
  { KindDef.leaf "break" with
    memberOf := [staticPhrasing], build := some (fromNothing .lineBreak) },
  { KindDef.parent "link" staticPhrasing with
    rules := Resource.rules, memberOf := [phrasing], build := some buildLink },
  { KindDef.parent "linkReference" staticPhrasing with
    rules := Reference.rules, memberOf := [phrasing], build := some buildLinkReference },
  { KindDef.parent "footnote" phrasing with
    memberOf := [staticPhrasing], build := some (fromChildren .footnote) },
  { KindDef.leaf "footnoteReference" with
    rules := Reference.rules, memberOf := [staticPhrasing], build := some buildFootnoteReference }]

/-- The kinds that references point to. -/
def definitionKinds : List KindDef := [
  { KindDef.leaf "definition" with
    rules := Association.rules ++ Resource.rules
    memberOf := [definition], build := some buildDefinition },
  { KindDef.parent "footnoteDefinition" flow with
    rules := Association.rules, memberOf := [definition], build := some buildFootnoteDefinition }]

/-- The kinds that are legal both as blocks and within text. -/
def dialectKinds : List KindDef := [
  { KindDef.leaf "image" with
    rules := Media.rules, memberOf := dialect ++ [gallery], build := some buildImage },
  { KindDef.leaf "file" with rules := Media.rules, memberOf := dialect, build := some buildFile },
  { KindDef.parent "gallery" gallery with
    rules := galleryRules, isOpen := true, memberOf := dialect, build := some buildGallery },
  { KindDef.leaf "signature" with
    rules := [.needed "kind" (.oneOf (Spelled.literals SignatureForm))]
    memberOf := dialect, build := some buildSignature },
  { KindDef.leaf "redirect" with
    rules := [.needed "target" .url], memberOf := dialect, build := some buildRedirect },
  { KindDef.leaf "toc" with memberOf := dialect, build := some (fromNothing .toc) },
  { KindDef.literal "nowiki" with memberOf := dialect, build := some (fromValue .nowiki) },
  { KindDef.leaf "references" with
    rules := [text "group"], memberOf := dialect, build := some buildReferences },
  { KindDef.literal "math" with
    rules := [.optional "display" (.oneOf (Spelled.literals MathDisplay))]
    memberOf := dialect, build := some buildMath },
  { KindDef.literal "syntaxHighlight" with
    rules := highlightRules, memberOf := dialect, build := some buildSyntaxHighlight }]

/-- All built-in kinds, in the order of their registration. -/
def kinds : List KindDef := blockKinds ++ phrasingKinds ++ definitionKinds ++ dialectKinds

end WikiDoc.Baseline
