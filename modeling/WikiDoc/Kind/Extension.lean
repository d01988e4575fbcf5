import WikiDoc.Kind.Definition

/-!
Extensions: node kinds beyond the built-in ones, each with its definition.

Poems hold text, scores hold music in one of two notations, marquees hold nothing, and stanzas hold
verse, a category that has to be defined before stanzas can be registered.
-/

namespace WikiDoc.Extension

/-- A poem. -/
def poem (children : List Node) : Node :=
  .custom { origin := "poem", kind := "poem", shape := .parent } children

/-- The definition of poems. -/
def poemDef : KindDef :=
  { KindDef.parent "poem" Category.phrasing with memberOf := [Category.block] }

/-- A piece of music in a notation. -/
def score (lang value : String) : Node :=
  .custom
    { origin := "score", kind := "score", shape := .literal
      attributes := .collect [("lang", some (.text lang))], value := some value } []

/-- The definition of scores; the constructor reads whatever is missing as empty. -/
def scoreDef : KindDef :=
  { KindDef.literal "score" with
    rules := [.needed "lang" (.oneOf ["lilypond", "ABC"])]
    memberOf := [Category.block, Category.staticPhrasing]
    build := some fun parts =>
      .ok (score ((parts.attributes.text "lang").getD "") (parts.value.getD "")) }

/-- A marquee. -/
def marquee : Node := .custom { origin := "marquee", kind := "marquee", shape := .leaf } []

/-- The definition of marquees. -/
def marqueeDef : KindDef :=
  { KindDef.leaf "marquee" with memberOf := [Category.staticPhrasing] }

/-- The category of lines of verse. -/
def verse : Category := ⟨"verse"⟩

/-- A stanza, which may be indented. -/
def stanza (indent : Option Int) (children : List Node) : Node :=
  .custom
    { origin := "stanza", kind := "stanza", shape := .parent
      attributes := .collect [("indent", indent.map .int)] } children

/-- The definition of stanzas. -/
def stanzaDef : KindDef :=
  { KindDef.parent "stanza" verse with
    rules := [.optional "indent" (.range 0 8)], memberOf := [verse, Category.block] }

end WikiDoc.Extension
