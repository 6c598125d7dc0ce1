import Chip8.Text.Hex
/-!
Spans of time in whole nanoseconds, and their text: the largest unit of which there is at least one,
with as many decimal places as are needed to be exact.
-/

namespace Chip8

structure Duration where
  nanoseconds : Nat
  deriving DecidableEq, Repr, Inhabited

namespace Duration

def ofMicroseconds (count : Nat) : Duration := ⟨1000 * count⟩

def ofMilliseconds (count : Nat) : Duration := ⟨1000000 * count⟩

def fractionDigits (places fraction : Nat) : List Char :=
  ((Text.padded places (Nat.toDigits 10 fraction)).reverse.dropWhile (· == '0')).reverse

/-- The span in a unit of `10 ^ places` nanoseconds. -/
def scaledText (places : Nat) (unitName : String) (duration : Duration) : String :=
  let unitSize := Nat.pow 10 places
  let whole := duration.nanoseconds / unitSize
  let fraction := duration.nanoseconds % unitSize
  if fraction = 0 then s!"{whole}{unitName}"
  else s!"{whole}.{String.ofList (fractionDigits places fraction)}{unitName}"

def text (duration : Duration) : String :=
  if 1000000000 ≤ duration.nanoseconds then scaledText 9 "s" duration
  else if 1000000 ≤ duration.nanoseconds then scaledText 6 "ms" duration
  else if 1000 ≤ duration.nanoseconds then scaledText 3 "µs" duration
  else scaledText 0 "ns" duration

end Duration

end Chip8
