/-!
Hexadecimal numerals as program listings write them: unsigned, and filled up on the left with
zeros to a least width. A numeral that is longer than the width is kept whole.
-/

namespace Chip8.Text

/-- Zeros bring the digits up to the width; longer digit strings stay as they are. -/
def padded (width : Nat) (digits : List Char) : List Char :=
  List.replicate (width - digits.length) '0' ++ digits

def hexDigits (width value : Nat) : List Char :=
  padded width (Nat.toDigits 16 value)

def upperHexDigits (value : Nat) : List Char :=
  (Nat.toDigits 16 value).map Char.toUpper

def hex (width value : Nat) : String :=
  String.ofList (hexDigits width value)

theorem length_padded (width : Nat) (digits : List Char) :
    (padded width digits).length = max width digits.length := by
  simp only [padded, List.length_append, List.length_replicate]
  omega

end Chip8.Text
