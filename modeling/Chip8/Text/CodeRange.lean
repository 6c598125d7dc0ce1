/-!
Sets of characters, written as the ranges of their code points.
-/

namespace Chip8.Text

/-- The code point lies in one of the ranges, which have both ends included and stand in ascending
order. -/
def within (code : Nat) : List (Nat × Nat) → Bool
  | [] => false
  | (first, last) :: later =>
      if code < first then false
      else if code ≤ last then true
      else within code later

end Chip8.Text
