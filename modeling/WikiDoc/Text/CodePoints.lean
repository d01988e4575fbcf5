/-!
Sets of characters, given as closed ranges of code points in ascending order.
-/

namespace WikiDoc.Text

/-- A set of code points: closed ranges, in ascending order and without overlap. -/
structure CodePoints where
  ranges : List (Nat × Nat)

namespace CodePoints

/-- Whether a code point lies in one of the ranges; the search ends at the first range above it. -/
def within (code : Nat) : List (Nat × Nat) → Bool
  | [] => false
  | (low, high) :: rest => if code < low then false else code ≤ high || within code rest

/-- Whether a character belongs to the set. -/
def contains (set : CodePoints) (c : Char) : Bool := within c.toNat set.ranges

end CodePoints

end WikiDoc.Text
