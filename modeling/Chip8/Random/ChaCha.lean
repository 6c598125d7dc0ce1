/-!
The ChaCha block function: sixteen words of state, mixed by double rounds and added to what they
were at the start. The number of double rounds is a parameter.
-/

namespace Chip8.Random

def rotateLeft (word : UInt32) (count : UInt32) : UInt32 :=
  (word <<< count) ||| (word >>> (32 - count))

abbrev Block : Type := Vector UInt32 16

def quarterRound (state : Block) (a b c d : Fin 16) : Block :=
  let a₁ := state[a] + state[b]
  let d₁ := rotateLeft (state[d] ^^^ a₁) 16
  let c₁ := state[c] + d₁
  let b₁ := rotateLeft (state[b] ^^^ c₁) 12
  let a₂ := a₁ + b₁
  let d₂ := rotateLeft (d₁ ^^^ a₂) 8
  let c₂ := c₁ + d₂
  let b₂ := rotateLeft (b₁ ^^^ c₂) 7
  (((state.set a a₂).set b b₂).set c c₂).set d d₂

/-- The places that one double round mixes: the four columns, then the four diagonals. -/
def doubleRoundPlaces : List (Fin 16 × Fin 16 × Fin 16 × Fin 16) :=
  [(0, 4, 8, 12), (1, 5, 9, 13), (2, 6, 10, 14), (3, 7, 11, 15),
   (0, 5, 10, 15), (1, 6, 11, 12), (2, 7, 8, 13), (3, 4, 9, 14)]

def doubleRound (state : Block) : Block :=
  doubleRoundPlaces.foldl
    (fun mixed places => quarterRound mixed places.1 places.2.1 places.2.2.1 places.2.2.2) state

/-- The state before mixing: four fixed words, the key, the block's number as two words with the
low one first, and two zeros. -/
def startState (key : Vector UInt32 8) (number : UInt64) : Block :=
  #v[0x61707865, 0x3320646e, 0x79622d32, 0x6b206574,
     key[0], key[1], key[2], key[3], key[4], key[5], key[6], key[7],
     number.toUInt32, (number >>> 32).toUInt32, 0, 0]

def block (doubleRounds : Nat) (key : Vector UInt32 8) (number : UInt64) : Block :=
  let start := startState key number
  let mixed := (List.range doubleRounds).foldl (fun state _ => doubleRound state) start
  Vector.zipWith (· + ·) start mixed

end Chip8.Random
