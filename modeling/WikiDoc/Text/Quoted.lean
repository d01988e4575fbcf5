import WikiDoc.Text.DefaultIgnorable
import WikiDoc.Text.ExtendingMark
import WikiDoc.Text.Unprintable

/-!
Text in double quotes, as messages show it.

The quote, the backslash and the common controls are written as a backslash and one character. What a
reader could not see by itself is written as its code point in braces: marks that extend the character
before them, and characters that are ignored by default or cannot be printed. Every other character
stands for itself.
-/

namespace WikiDoc.Text

/-- The code point of a character, in lower-case hexadecimal between braces. -/
def codeEscape (c : Char) : List Char :=
  '\\' :: 'u' :: '\x7b' :: Nat.toDigits 16 c.toNat ++ ['\x7d']

/-- Whether a character cannot be seen by itself. -/
def isHidden (c : Char) : Bool :=
  extendingMark.contains c || defaultIgnorable.contains c || unprintable.contains c

/-- One character as it is written between quotes. -/
def quoteChar (c : Char) : List Char :=
  if c = '\x00' then ['\\', '0']
  else if c = '\t' then ['\\', 't']
  else if c = '\r' then ['\\', 'r']
  else if c = '\n' then ['\\', 'n']
  else if c = '"' then ['\\', '"']
  else if c = '\\' then ['\\', '\\']
  else if isHidden c then codeEscape c
  else [c]

/-- A text between double quotes. -/
def quote (text : List Char) : List Char := '"' :: text.flatMap quoteChar ++ ['"']

/-- A string between double quotes. -/
def quoted (text : String) : String := String.ofList (quote text.toList)

end WikiDoc.Text
