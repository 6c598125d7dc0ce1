import Chip8.Screen.Basic
import Chip8.System
/-!
Displays: whatever keeps a picture of the screen and can show it. A display learns of the screen
only through the cells that are due for painting.
-/

namespace Chip8

class Display (δ : Type) where
  paint : δ → Cell → δ
  /-- Shows the picture as it is, which the system may refuse. -/
  render : δ → SystemAnswer × δ

namespace Display

variable {δ : Type} [Display δ]

/-- The display after it has painted every cell that is due. The screen is then `Screen.swept`, and
as many cells were painted as `Screen.dueCells` has. -/
def update (display : δ) (screen : Screen) : δ :=
  screen.dueCells.foldl paint display

/-- One frame: what is due is painted, and the picture is shown if anything was. The screen is
`Screen.swept` afterwards, even if showing fails. -/
def present (display : δ) (screen : Screen) : SystemAnswer × δ :=
  if screen.dueCells.isEmpty then (.ok (), display) else render (update display screen)

end Display

structure PaintRecord where
  cells : Array Cell
  renders : Nat
  deriving DecidableEq, Repr

namespace PaintRecord

def empty : PaintRecord :=
  { cells := #[]
    renders := 0 }

instance : Display PaintRecord where
  paint := fun record cell => { record with cells := record.cells.push cell }
  render := fun record => (.ok (), { record with renders := record.renders + 1 })

end PaintRecord

end Chip8
