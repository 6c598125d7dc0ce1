import Chip8.Screen.Basic
/-!
Sprites: rows of eight bits, laid over the screen with exclusive or. Set bits that fall outside the
picture are left out.
-/

namespace Chip8

/-- The bit of a sprite row that stands in a column; column zero is the most significant. -/
def spriteBit (row : UInt8) (column : Nat) : Bool :=
  decide (column < 8) && row.toNat.testBit (7 - column)

/-- The cells under the set bits of a sprite whose top left corner is at `(x, y)`, on the screen or
not, row by row. -/
def spriteCells (x y : Nat) (rows : List UInt8) : List (Nat × Nat) :=
  rows.zipIdx.flatMap fun numbered =>
    ((List.range 8).filter (spriteBit numbered.1)).map fun column =>
      (x + column, y + numbered.2)

namespace Screen

/-- Turns the cells over one after the other and marks them; tells whether one of them was lit when
its turn came. -/
def flip (screen : Screen) : List (Nat × Nat) → Screen × Bool
  | [] => (screen, false)
  | (x, y) :: rest =>
      let later := ((screen.toggle x y).mark x y).flip rest
      (later.1, screen.pixels.get x y || later.2)

def drawSprite (screen : Screen) (x y : Nat) (rows : List UInt8) : Screen × Bool :=
  screen.flip (spriteCells x y rows)

end Screen

end Chip8
