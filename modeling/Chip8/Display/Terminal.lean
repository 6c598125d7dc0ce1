import Chip8.Display.Basic
import Chip8.Display.Toolkit
/-!
A display on a text terminal. The picture stands in a frame at the upper left, one place a cell; a
terminal that is too small shows it scaled down.
-/

namespace Chip8

structure Resolution where
  columns : Nat
  rows : Nat
  deriving DecidableEq, Repr

namespace Resolution

def screen : Resolution := ⟨screenWidth, screenHeight⟩

def xBounds (resolution : Resolution) : Int × Int :=
  (0, resolution.columns - 1)

def yBounds (resolution : Resolution) : Int × Int :=
  (-(resolution.rows - 1), 0)

/-- The canvas with its frame, however small the terminal. -/
def area (resolution : Resolution) : Rect :=
  ⟨0, 0, 2 + resolution.columns, 2 + resolution.rows⟩

end Resolution

/-- The lit cells as points of a canvas, row by row. The rows of the screen count downwards. -/
def Grid.litPoints (picture : Grid) : List (Int × Int) :=
  (positions.filter fun position => picture.get position.1 position.2).map fun position =>
    ((position.1 : Int), -(position.2 : Int))

structure Terminal (toolkit : Toolkit) (columns rows : Nat) where
  state : toolkit.State columns rows
  picture : Grid
  title : String

namespace Terminal

variable {toolkit : Toolkit} {columns rows : Nat}

def start (toolkit : Toolkit) (columns rows : Nat) :
    Except SystemProblem (Terminal toolkit columns rows) :=
  (toolkit.start columns rows).map fun state =>
    { state := state
      picture := Grid.blank
      title := "CHIP-8" }

def shown (terminal : Terminal toolkit columns rows) : List String :=
  toolkit.shown terminal.state

/-- The title is shown from the next time the picture is. -/
def setTitle (terminal : Terminal toolkit columns rows) (title : String) :
    Terminal toolkit columns rows :=
  { terminal with title := title }

def canvas (terminal : Terminal toolkit columns rows) : Canvas :=
  { title := terminal.title
    xBounds := Resolution.screen.xBounds
    yBounds := Resolution.screen.yBounds
    points := terminal.picture.litPoints }

def drawOn (terminal : Terminal toolkit columns rows) (size : Rect)
    (buffer : Buffer columns rows) : Buffer columns rows :=
  toolkit.canvas terminal.canvas (toolkit.intersection Resolution.screen.area size) buffer

instance : Display (Terminal toolkit columns rows) where
  paint := fun terminal cell =>
    { terminal with picture := terminal.picture.set cell.x cell.y cell.lit }
  render := fun terminal =>
    let drawn := toolkit.draw terminal.state terminal.drawOn
    (drawn.1, { terminal with state := drawn.2 })

end Terminal

end Chip8
