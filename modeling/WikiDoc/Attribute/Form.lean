/-!
Forms that attribute texts may have: media sizes, positive integers and pixel lengths.

Digits are the ASCII digits `0` to `9`. A form is a property of the whole text, so nothing may stand
before or after it.
-/

namespace WikiDoc.Form

/-- Whether a character is one of the digits `0` to `9`. -/
def isDigit (c : Char) : Bool := '0' ≤ c && c ≤ '9'

/-- One or more digits. -/
def isNumber (text : List Char) : Bool := !text.isEmpty && text.all isDigit

/-- Strips a fixed beginning from a text that starts with it. -/
def afterStart (start text : List Char) : Option (List Char) :=
  if start.isPrefixOf text then some (text.drop start.length) else none

/-- A number followed by exactly the given ending. -/
def isNumberThen (ending : List Char) (text : List Char) : Bool :=
  isNumber (text.takeWhile isDigit) && text.dropWhile isDigit == ending

/-- A number followed by `px`. -/
def isWidth (text : List Char) : Bool := isNumberThen ['p', 'x'] text

/-- A height: `x` and then a number followed by `px`. -/
def isHeight : List Char → Bool
  | 'x' :: rest => isWidth rest
  | _ => false

/-- A number and then a height. -/
def isBox (text : List Char) : Bool :=
  isNumber (text.takeWhile isDigit) && isHeight (text.dropWhile isDigit)

/-- A point and then a number. -/
def isFraction : List Char → Bool
  | '.' :: rest => isNumber rest
  | _ => false

/-- A number, a fraction, or a number and then a fraction. -/
def isFactor (text : List Char) : Bool :=
  isNumber text || isFraction text ||
    (isNumber (text.takeWhile isDigit) && isFraction (text.dropWhile isDigit))

/-- The word `upright`, alone or with `=` and a factor behind it. -/
def isUpright (text : List Char) : Bool :=
  match afterStart "upright".toList text with
  | some [] => true
  | some ('=' :: factor) => isFactor factor
  | _ => false

/-- The sizes of media: a width, a height, both, or an upright factor. -/
def isMediaSize (text : String) : Bool :=
  isWidth text.toList || isHeight text.toList || isBox text.toList || isUpright text.toList

/-- A number with a digit other than zero. -/
def isPositive (text : List Char) : Bool := isNumber text && text.any (· != '0')

/-- The text without one `px` at its end, if it has it there. -/
def dropUnit (text : List Char) : List Char :=
  if ['p', 'x'].isSuffixOf text then text.take (text.length - 2) else text

/-- A positive number. -/
def isPositiveInteger (text : String) : Bool := isPositive text.toList

/-- A positive number, with or without the unit `px`. -/
def isPixelLength (text : String) : Bool := isPositive (dropUnit text.toList)

end WikiDoc.Form
