import WikiDoc.Text.Blank
import WikiDoc.Text.LowerCase

/-!
Options of the validator, and how identifiers are compared.

Identifiers match exactly, or after both were brought into a form in which neither letter case nor the
amount and kind of white space counts: the lower-cased words, with single spaces between them.
-/

namespace WikiDoc

/-- How the identifiers of references and definitions are compared. -/
inductive IdentifierMatching where
  | exact
  | caseInsensitive
  deriving DecidableEq

namespace IdentifierMatching

/-- Puts a word behind a text, in lower case and after a space unless the text is empty. -/
def addWord (text word : List Char) : List Char :=
  (if text.isEmpty then text else text ++ [' ']) ++ Text.lowerWord word

/-- The form in which identifiers are compared. -/
def normalize : IdentifierMatching → String → String
  | .exact, identifier => identifier
  | .caseInsensitive, identifier =>
    String.ofList ((Text.words identifier.toList).foldl addWord [])

/-- The name of the option. -/
def name : IdentifierMatching → String
  | .exact => "exact"
  | .caseInsensitive => "caseInsensitive"

end IdentifierMatching

/-- What a validation looks at. -/
structure ValidatorOptions where
  checkAttributes : Bool := true
  checkReferences : Bool := true
  identifierMatching : IdentifierMatching := .exact
  deriving DecidableEq

end WikiDoc
