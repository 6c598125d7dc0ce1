import Chip8.Screen.Grid
/-!
The screen that programs draw on: the pixels, and the notes that tell a display which cells to
paint. A cell is due for painting when its own mark is set or when all cells are due; a sweep hands
out the cells that are due and clears every note.
-/

namespace Chip8

structure Screen where
  pixels : Grid
  marked : Grid
  allDue : Bool
  deriving DecidableEq, Repr

structure Cell where
  x : Nat
  y : Nat
  lit : Bool
  deriving DecidableEq, Repr

namespace Screen

def blank : Screen :=
  { pixels := Grid.blank
    marked := Grid.blank
    allDue := false }

instance : Inhabited Screen := ⟨blank⟩

/-! ### Pixels -/

def toggle (screen : Screen) (x y : Nat) : Screen :=
  { screen with pixels := screen.pixels.set x y (!screen.pixels.get x y) }

theorem get_toggle (screen : Screen) (x y column row : Nat) :
    (screen.toggle x y).pixels.get column row =
      if OnScreen x y ∧ column = x ∧ row = y then !screen.pixels.get x y
      else screen.pixels.get column row :=
  screen.pixels.get_set x y _ column row

def lit (screen : Screen) : Nat :=
  screen.pixels.cells.toList.count true

/-! ### Notes for the display -/

def mark (screen : Screen) (x y : Nat) : Screen :=
  { screen with marked := screen.marked.set x y true }

theorem get_mark (screen : Screen) (x y column row : Nat) :
    (screen.mark x y).marked.get column row =
      if OnScreen x y ∧ column = x ∧ row = y then true else screen.marked.get column row :=
  screen.marked.get_set x y true column row

def unmark (screen : Screen) (x y : Nat) : Screen :=
  { screen with marked := screen.marked.set x y false }

def setAllDue (screen : Screen) (due : Bool) : Screen :=
  { screen with allDue := due }

def isDue (screen : Screen) (x y : Nat) : Bool :=
  screen.allDue || screen.marked.get x y

/-- The cells that a sweep hands out, row by row. -/
def dueCells (screen : Screen) : List Cell :=
  (positions.filter fun position => screen.isDue position.1 position.2).map fun position =>
    ⟨position.1, position.2, screen.pixels.get position.1 position.2⟩

theorem mem_dueCells {screen : Screen} {cell : Cell} :
    cell ∈ screen.dueCells ↔
      OnScreen cell.x cell.y ∧ screen.isDue cell.x cell.y = true ∧
        cell.lit = screen.pixels.get cell.x cell.y := by
  simp only [dueCells, List.mem_map, List.mem_filter]
  constructor
  · rintro ⟨⟨x, y⟩, ⟨listed, due⟩, rfl⟩
    exact ⟨mem_positions.mp listed, due, rfl⟩
  · rintro ⟨inside, due, lit⟩
    refine ⟨(cell.x, cell.y), ⟨mem_positions.mpr inside, due⟩, ?_⟩
    rw [← lit]

/-- The pixels stay, and no cell is due any more. -/
def swept (screen : Screen) : Screen :=
  { screen with
    marked := Grid.blank
    allDue := false }

end Screen

end Chip8
