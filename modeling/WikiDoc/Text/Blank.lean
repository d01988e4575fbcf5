import WikiDoc.Text.CodePoints

/-!
White space and words.

`blank` is the set of characters with the property White_Space. The `words` of a text are its maximal
runs of other characters, so they are never empty and hold no white space.
-/

namespace WikiDoc.Text

/-- The characters with the property White_Space. -/
def blank : CodePoints where
  ranges := [(0x9, 0xd), (0x20, 0x20), (0x85, 0x85), (0xa0, 0xa0), (0x1680, 0x1680),
    (0x2000, 0x200a), (0x2028, 0x2029), (0x202f, 0x202f), (0x205f, 0x205f), (0x3000, 0x3000)]

/-- Puts a finished word in front of the words after it, unless it is empty. -/
def closeWord (word : List Char) (later : List (List Char)) : List (List Char) :=
  if word.isEmpty then later else word :: later

/-- Splits a text into words, `carry` being the part of the current word already read. -/
def wordsFrom (carry : List Char) : List Char → List (List Char)
  | [] => closeWord carry []
  | c :: rest =>
    if blank.contains c then closeWord carry (wordsFrom [] rest) else wordsFrom (carry ++ [c]) rest

/-- The maximal runs of characters that are not white space, from left to right. -/
def words (text : List Char) : List (List Char) := wordsFrom [] text

end WikiDoc.Text
