import Chip8.System
/-!
What a display on a terminal asks of a toolkit for terminals. A toolkit hands out a blank buffer with
a symbol for each place of the terminal, draws a framed canvas with points into it, and brings the
terminal to what has been drawn. `Toolkit.Documented` collects what is relied on.
-/

namespace Chip8

structure Rect where
  x : Nat
  y : Nat
  width : Nat
  height : Nat
  deriving DecidableEq, Repr

namespace Rect

def Contains (area : Rect) (column row : Nat) : Prop :=
  (area.x ≤ column ∧ column < area.x + area.width) ∧
    area.y ≤ row ∧ row < area.y + area.height

instance (area : Rect) (column row : Nat) : Decidable (area.Contains column row) :=
  inferInstanceAs (Decidable (_ ∧ _))

end Rect

structure Symbol where
  text : String
  columns : Nat
  deriving DecidableEq, Repr

namespace Symbol

def narrow (character : Char) : Symbol :=
  { text := String.singleton character
    columns := 1 }

def blank : Symbol := narrow ' '

end Symbol

/-! ### Buffers -/

structure Buffer (columns rows : Nat) where
  symbols : Vector (Vector Symbol columns) rows
  deriving DecidableEq, Repr

namespace Buffer

variable {columns rows : Nat}

def get (buffer : Buffer columns rows) (column row : Nat) : Symbol :=
  ((buffer.symbols[row]?).bind fun places => places[column]?).getD .blank

def ofFn (symbol : Nat → Nat → Symbol) : Buffer columns rows :=
  ⟨.ofFn fun row => .ofFn fun column => symbol column row⟩

def blank : Buffer columns rows :=
  ofFn fun _ _ => .blank

theorem get_ofFn (symbol : Nat → Nat → Symbol) {column row : Nat} (inside : column < columns)
    (below : row < rows) :
    (ofFn symbol : Buffer columns rows).get column row = symbol column row := by
  simp [get, ofFn, inside, below]

theorem get_of_outside (buffer : Buffer columns rows) {column row : Nat}
    (outside : columns ≤ column ∨ rows ≤ row) : buffer.get column row = .blank := by
  unfold get
  rcases Nat.lt_or_ge row rows with below | under
  · have right : columns ≤ column := outside.resolve_right (by omega)
    simp [below, Nat.not_lt_of_le right]
  · simp [Nat.not_lt_of_le under]

theorem get_blank (column row : Nat) : (blank : Buffer columns rows).get column row = .blank := by
  by_cases inside : column < columns ∧ row < rows
  · exact get_ofFn _ inside.1 inside.2
  · exact get_of_outside _ (by omega)

def lines (buffer : Buffer columns rows) : List String :=
  (List.range rows).map fun row =>
    String.join ((List.range columns).map fun column => (buffer.get column row).text)

/-- No symbol reaches over the place right of it. -/
def AllNarrow (buffer : Buffer columns rows) : Prop :=
  ∀ column row, (buffer.get column row).columns ≤ 1

theorem allNarrow_blank : (blank : Buffer columns rows).AllNarrow := by
  intro column row
  rw [get_blank]
  exact Nat.le_refl 1

end Buffer

/-! ### Canvases -/

/-- Points in a part of a plane, both ends of which are drawn, with a title for the frame around
it. The second coordinate grows upwards. -/
structure Canvas where
  title : String
  xBounds : Int × Int
  yBounds : Int × Int
  points : List (Int × Int)
  deriving DecidableEq, Repr

namespace Canvas

/-- There is something between the bounds, and they are small enough for places to be exact although
toolkits compute them in floating point. -/
structure Regular (canvas : Canvas) : Prop where
  xBounds_lt : canvas.xBounds.1 < canvas.xBounds.2
  yBounds_lt : canvas.yBounds.1 < canvas.yBounds.2
  natAbs_lt : ∀ bound ∈ [canvas.xBounds.1, canvas.xBounds.2, canvas.yBounds.1, canvas.yBounds.2],
    bound.natAbs < 65536

/-- The place on which a point falls, counted from the upper left, when the canvas is spread over
the given columns and rows, its ends over the first and the last. -/
def place? (canvas : Canvas) (width height : Nat) (point : Int × Int) : Option (Nat × Nat) :=
  if canvas.xBounds.1 ≤ point.1 ∧ point.1 ≤ canvas.xBounds.2 ∧
      canvas.yBounds.1 ≤ point.2 ∧ point.2 ≤ canvas.yBounds.2 then
    some
      (((point.1 - canvas.xBounds.1) * (width - 1) / (canvas.xBounds.2 - canvas.xBounds.1)).toNat,
        ((canvas.yBounds.2 - point.2) * (height - 1) /
          (canvas.yBounds.2 - canvas.yBounds.1)).toNat)
  else none

def Marks (canvas : Canvas) (width height column row : Nat) : Prop :=
  ∃ point ∈ canvas.points, canvas.place? width height point = some (column, row)

/-- The canvas with its frame has been drawn into an area: the title, cut into `title`, stands over
the frame, the points are blocks inside it, and everything else is as it was. -/
structure DrawnIn {columns rows : Nat} (canvas : Canvas) (title : List Symbol) (area : Rect)
    (before after : Buffer columns rows) : Prop where
  topLeft : after.get area.x area.y = .narrow '┌'
  topRight : after.get (area.x + (area.width - 1)) area.y = .narrow '┐'
  bottomLeft : after.get area.x (area.y + (area.height - 1)) = .narrow '└'
  bottomRight :
    after.get (area.x + (area.width - 1)) (area.y + (area.height - 1)) = .narrow '┘'
  titled : ∀ column < area.width - 2, ∀ symbol, title[column]? = some symbol →
    after.get (area.x + (column + 1)) area.y = symbol
  untitled : ∀ column < area.width - 2, title.length ≤ column →
    after.get (area.x + (column + 1)) area.y = .narrow '─'
  bottom : ∀ column < area.width - 2,
    after.get (area.x + (column + 1)) (area.y + (area.height - 1)) = .narrow '─'
  leftSide : ∀ row < area.height - 2, after.get area.x (area.y + (row + 1)) = .narrow '│'
  rightSide : ∀ row < area.height - 2,
    after.get (area.x + (area.width - 1)) (area.y + (row + 1)) = .narrow '│'
  marked : ∀ column < area.width - 2, ∀ row < area.height - 2,
    canvas.Marks (area.width - 2) (area.height - 2) column row →
      after.get (area.x + (column + 1)) (area.y + (row + 1)) = .narrow '▄'
  unmarked : ∀ column < area.width - 2, ∀ row < area.height - 2,
    ¬canvas.Marks (area.width - 2) (area.height - 2) column row →
      after.get (area.x + (column + 1)) (area.y + (row + 1)) =
        before.get (area.x + (column + 1)) (area.y + (row + 1))
  outside : ∀ column row, ¬area.Contains column row → after.get column row = before.get column row

end Canvas

/-! ### Toolkits -/

structure Toolkit where
  State : Nat → Nat → Type
  start : (columns rows : Nat) → Except SystemProblem (State columns rows)
  /-- What the terminal shows, line by line. -/
  shown : {columns rows : Nat} → State columns rows → List String
  /-- Draws into a blank buffer, given the size of the terminal, and shows what has been drawn. -/
  draw : {columns rows : Nat} → State columns rows →
    (Rect → Buffer columns rows → Buffer columns rows) → SystemAnswer × State columns rows
  intersection : Rect → Rect → Rect
  /-- Draws a canvas in a frame into an area of a buffer. -/
  canvas : {columns rows : Nat} → Canvas → Rect → Buffer columns rows → Buffer columns rows
  /-- Cuts a text into what a reader counts as its characters. -/
  symbols : String → List Symbol

namespace Toolkit

variable (toolkit : Toolkit) {columns rows : Nat}

/-- Every character of the text, as a reader counts them, takes one column. -/
def SingleWidth (text : String) : Prop :=
  ∀ symbol ∈ toolkit.symbols text, symbol.columns = 1

def full (columns rows : Nat) : Rect := ⟨0, 0, columns, rows⟩

/-- Terminals on which no attempt to draw has failed so far. -/
inductive Drawn : toolkit.State columns rows → Prop where
  | start {state : toolkit.State columns rows} (started : toolkit.start columns rows = .ok state) :
      Drawn state
  | draw {state next : toolkit.State columns rows}
      {paint : Rect → Buffer columns rows → Buffer columns rows} (before : Drawn state)
      (drew : toolkit.draw state paint = (.ok (), next)) : Drawn next

/-- What is relied on. A failed attempt to draw may leave anything behind, and wide symbols may leave
places behind them as they were, so nothing is said of either. -/
structure Documented : Prop where
  intersection_touching : ∀ first second : Rect,
    max first.x second.x ≤ min (first.x + first.width) (second.x + second.width) →
    max first.y second.y ≤ min (first.y + first.height) (second.y + second.height) →
      toolkit.intersection first second =
        { x := max first.x second.x
          y := max first.y second.y
          width := min (first.x + first.width) (second.x + second.width) - max first.x second.x
          height :=
            min (first.y + first.height) (second.y + second.height) - max first.y second.y }
  symbols_plain : ∀ text : String,
    (∀ character ∈ text.toList, 32 ≤ character.toNat ∧ character.toNat < 127) →
      toolkit.symbols text = text.toList.map Symbol.narrow
  canvas_drawn : ∀ {columns rows : Nat} (canvas : Canvas) (area : Rect)
    (buffer : Buffer columns rows), canvas.Regular →
    2 ≤ area.width → 2 ≤ area.height → area.x + area.width ≤ columns →
    area.y + area.height ≤ rows → toolkit.SingleWidth canvas.title →
      canvas.DrawnIn (toolkit.symbols canvas.title) area buffer
        (toolkit.canvas canvas area buffer)
  canvas_narrow : ∀ {columns rows : Nat} (canvas : Canvas) (area : Rect)
    (buffer : Buffer columns rows), canvas.Regular →
    area.x + area.width ≤ columns → area.y + area.height ≤ rows →
    toolkit.SingleWidth canvas.title → buffer.AllNarrow →
      (toolkit.canvas canvas area buffer).AllNarrow
  draw_shows : ∀ {columns rows : Nat} {state next : toolkit.State columns rows}
    {paint : Rect → Buffer columns rows → Buffer columns rows},
    toolkit.Drawn state → toolkit.draw state paint = (.ok (), next) →
    (paint (full columns rows) .blank).AllNarrow →
      toolkit.shown next = (paint (full columns rows) .blank).lines

end Toolkit

end Chip8
