import Chip8.Display.Toolkit
import Chip8.Text.Cluster.Basic
import Chip8.Text.Columns.Basic
/-!
A toolkit for terminals. What stands on the terminal is kept place by place, and only places that
changed are sent. A symbol may be wider than its place and cover those behind it; a covered place is
not sent, so that what stood there stays.
-/

namespace Chip8

/-! ### Titles -/

def Text.symbols (text : String) : List Symbol :=
  (clusters text.toList).map fun cluster => ⟨String.ofList cluster, columns cluster⟩

/-- Lays symbols out in a row of `room` places. Those without a width are left out, those that are
wide have blanks behind them, and the first one that does not fit ends the row. -/
def Symbol.layOut (room : Nat) : List Symbol → List Symbol
  | [] => []
  | symbol :: later =>
      if symbol.columns = 0 then layOut room later
      else if room < symbol.columns then []
      else
        symbol ::
          (List.replicate (symbol.columns - 1) blank ++ layOut (room - symbol.columns) later)

/-! ### Canvases -/

/-- A place of a frame of the given size, counted from its upper left corner. What is inside stays
unless it is marked. -/
def Symbol.inFrame (width height : Nat) (title : List Symbol) (marks : List (Nat × Nat))
    (before : Symbol) (column row : Nat) : Symbol :=
  if row = 0 then
    if column = 0 then narrow '┌'
    else if column + 1 = width then narrow '┐'
    else (title[column - 1]?).getD (narrow '─')
  else if row + 1 = height then
    if column = 0 then narrow '└'
    else if column + 1 = width then narrow '┘'
    else narrow '─'
  else if column = 0 ∨ column + 1 = width then narrow '│'
  else if (column - 1, row - 1) ∈ marks then narrow '▄'
  else before

def Canvas.drawIn {columns rows : Nat} (canvas : Canvas) (area : Rect)
    (buffer : Buffer columns rows) : Buffer columns rows :=
  let title := Symbol.layOut (area.width - 2) (Text.symbols canvas.title)
  let marks := canvas.points.filterMap (canvas.place? (area.width - 2) (area.height - 2))
  .ofFn fun column row =>
    let before := buffer.get column row
    if area.Contains column row then
      Symbol.inFrame area.width area.height title marks before (column - area.x) (row - area.y)
    else before

def Rect.overlap (first second : Rect) : Rect :=
  let x := max first.x second.x
  let y := max first.y second.y
  { x := x
    y := y
    width := min (first.x + first.width) (second.x + second.width) - x
    height := min (first.y + first.height) (second.y + second.height) - y }

/-! ### Surfaces -/

structure Place where
  asked : Symbol
  standing : Symbol
  deriving DecidableEq, Repr

abbrev Surface : Type := List (List Place)

namespace Surface

def blank (columns rows : Nat) : Surface :=
  List.replicate rows (List.replicate columns ⟨Symbol.blank, Symbol.blank⟩)

/-- Brings the rest of a row up to date. The first `stale` places were or are covered by a symbol
further left, so they are sent even if nothing else is asked for there; the first one is not sent at
all if the symbol left of it covers it now. -/
def redrawRow (stale : Nat) (covered : Bool) : List Symbol → List Place → List Place
  | symbol :: symbols, place :: places =>
      let sent := !covered && (decide (symbol ≠ place.asked) || decide (0 < stale))
      let reach := max stale (max symbol.columns place.asked.columns)
      { asked := symbol
        standing := if sent then symbol else place.standing } ::
        redrawRow (reach - 1) (decide (1 < symbol.columns)) symbols places
  | _, places => places

def redraw (surface : Surface) (rows : List (List Symbol)) : Surface :=
  List.zipWith (redrawRow 0 false) rows surface

def lines (surface : Surface) : List String :=
  surface.map fun row => String.join (row.map fun place => place.standing.text)

theorem length_redrawRow (stale : Nat) (covered : Bool) (symbols : List Symbol)
    (places : List Place) : (redrawRow stale covered symbols places).length = places.length := by
  induction symbols generalizing stale covered places with
  | nil => simp [redrawRow]
  | cons symbol symbols ih =>
      cases places with
      | nil => rfl
      | cons place places => simp [redrawRow, ih]

end Surface

def Buffer.toRows {columns rows : Nat} (buffer : Buffer columns rows) : List (List Symbol) :=
  buffer.symbols.toList.map Vector.toList

/-- A terminal that takes everything that is sent to it. -/
def Toolkit.standard : Toolkit where
  State := fun _ _ => Surface
  start := fun columns rows => .ok (Surface.blank columns rows)
  shown := Surface.lines
  draw := fun {columns rows} surface paint =>
    (.ok (), surface.redraw (paint (full columns rows) .blank).toRows)
  intersection := Rect.overlap
  canvas := Canvas.drawIn
  symbols := Text.symbols

end Chip8
