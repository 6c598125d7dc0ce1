import Chip8.Random.ChaCha
/-!
The random words that a seed gives: an endless sequence, of which a stream has used the first
`position`. The words are those of the ChaCha blocks 0, 1, 2, ... under a key drawn from the seed.
-/

namespace Chip8.Random

def nextKeyState (state : UInt64) : UInt64 :=
  state * 6364136223846793005 + 11634580027462260723

def keyWord (state : UInt64) : UInt32 :=
  let folded := (((state >>> 18) ^^^ state) >>> 27).toUInt32
  let turn := (state >>> 59).toUInt32
  (folded >>> turn) ||| (folded <<< ((32 - turn) &&& 31))

def keyState (seed : UInt64) : Nat → UInt64
  | 0 => nextKeyState seed
  | number + 1 => nextKeyState (keyState seed number)

def key (seed : UInt64) : Vector UInt32 8 :=
  Vector.ofFn fun number => keyWord (keyState seed number.val)

/-- Twelve rounds are six double rounds. -/
def doubleRounds : Nat := 6

def word (seed : UInt64) (number : Nat) : UInt32 :=
  (block doubleRounds (key seed) (UInt64.ofNat (number / 16)))[number % 16]

structure Stream where
  seed : UInt64
  position : Nat
  deriving DecidableEq, Repr, Inhabited

namespace Stream

def start (seed : UInt64) : Stream :=
  { seed := seed
    position := 0 }

def head (stream : Stream) : UInt32 :=
  word stream.seed stream.position

def tail (stream : Stream) : Stream :=
  { stream with position := stream.position + 1 }

end Stream

end Chip8.Random
