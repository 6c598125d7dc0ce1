import Chip8.Proofs.TerminalPicture
/-!
What a terminal shows, place by place: a frame with the title over its top, inside it the picture with
each lit pixel on the place it falls on, and blanks beyond. No pixel is lost however small the frame,
and where the whole picture has room every pixel has a place of its own.
-/

namespace Chip8

/-! ### Pixels on places -/

theorem spread_lt {source count places : Nat} (inside : source < count) (room : 0 < places) :
    source * (places - 1) / (count - 1) < places := by
  have bound : source * (places - 1) / (count - 1) ≤ places - 1 := by
    refine Nat.div_le_of_le_mul ?_
    exact Nat.mul_le_mul_right (places - 1) (by omega)
  omega

theorem spread_self {count : Nat} (several : 1 < count) (source : Nat) :
    source * (count - 1) / (count - 1) = source :=
  Nat.mul_div_cancel source (by omega)

namespace Grid

/-- A lit pixel falls on the place when the picture is spread over the given columns and rows. -/
def FallsOn (picture : Grid) (width height column row : Nat) : Prop :=
  ∃ x y, picture.get x y = true ∧
    x * (width - 1) / 63 = column ∧ y * (height - 1) / 31 = row

theorem onScreen_of_get {picture : Grid} {x y : Nat} (lit : picture.get x y = true) :
    OnScreen x y := by
  refine Decidable.byContradiction fun outside => ?_
  rw [picture.get_of_not_onScreen outside] at lit
  cases lit

theorem fallsOn_of_lit {picture : Grid} {width height x y : Nat} (wide : 0 < width)
    (high : 0 < height) (lit : picture.get x y = true) :
    ∃ column < width, ∃ row < height,
      x * (width - 1) / 63 = column ∧ y * (height - 1) / 31 = row ∧
        picture.FallsOn width height column row := by
  obtain ⟨left, above⟩ := onScreen_of_get lit
  exact ⟨_, spread_lt left wide, _, spread_lt above high, rfl, rfl, x, y, lit, rfl, rfl⟩

theorem fallsOn_full {picture : Grid} {x y : Nat} :
    picture.FallsOn 64 32 x y ↔ picture.get x y = true := by
  constructor
  · rintro ⟨column, row, lit, rfl, rfl⟩
    rw [spread_self (by decide) column, spread_self (by decide) row]
    exact lit
  · intro lit
    exact ⟨x, y, lit, spread_self (by decide) x, spread_self (by decide) y⟩

end Grid

/-! ### Points of a canvas -/

theorem Canvas.toNat_spread {places : Nat} (room : 0 < places) (source count : Nat) :
    ((source : Int) * ((places : Int) - 1) / (count : Int)).toNat =
      source * (places - 1) / count := by
  have less : (places : Int) - 1 = ((places - 1 : Nat) : Int) := by omega
  rw [less, ← Int.natCast_mul, ← Int.natCast_ediv, Int.toNat_natCast]

theorem Grid.mem_litPoints {picture : Grid} {point : Int × Int} :
    point ∈ picture.litPoints ↔
      ∃ x y : Nat, picture.get x y = true ∧ point = ((x : Int), -(y : Int)) := by
  unfold litPoints
  rw [List.mem_map]
  constructor
  · rintro ⟨⟨x, y⟩, listed, rfl⟩
    exact ⟨x, y, (List.mem_filter.mp listed).2, rfl⟩
  · rintro ⟨x, y, lit, rfl⟩
    exact ⟨(x, y), List.mem_filter.mpr ⟨mem_positions.mpr (onScreen_of_get lit), lit⟩, rfl⟩

namespace Terminal

variable {toolkit : Toolkit} {columns rows : Nat} {terminal : Terminal toolkit columns rows}

theorem place?_canvas {width height x y : Nat} (wide : 0 < width) (high : 0 < height)
    (inside : OnScreen x y) :
    terminal.canvas.place? width height (x, -y) =
      some (x * (width - 1) / 63, y * (height - 1) / 31) := by
  have xBounds : terminal.canvas.xBounds = (0, 63) := rfl
  have yBounds : terminal.canvas.yBounds = (-31, 0) := rfl
  have bounds : (0 : Int) ≤ x ∧ (x : Int) ≤ 63 ∧ -31 ≤ -(y : Int) ∧ -(y : Int) ≤ 0 := by
    obtain ⟨left, above⟩ := inside
    simp only [screenWidth, screenHeight] at left above
    omega
  have across : ((x : Int) - 0) * (width - 1) / (63 - 0) = x * (width - 1) / (63 : Nat) := by
    rw [Int.sub_zero]
    rfl
  have down : (0 - -(y : Int)) * (height - 1) / (0 - -31) = y * (height - 1) / (31 : Nat) := by
    rw [Int.zero_sub, Int.neg_neg]
    rfl
  unfold Canvas.place?
  dsimp only
  rw [xBounds, yBounds, if_pos bounds, across, down, Canvas.toNat_spread wide,
    Canvas.toNat_spread high]

theorem marks_iff_fallsOn {width height : Nat} (wide : 0 < width) (high : 0 < height)
    (column row : Nat) :
    terminal.canvas.Marks width height column row ↔
      terminal.picture.FallsOn width height column row := by
  constructor
  · rintro ⟨point, listed, falls⟩
    obtain ⟨x, y, lit, rfl⟩ := Grid.mem_litPoints.mp listed
    rw [place?_canvas wide high (Grid.onScreen_of_get lit), Option.some.injEq,
      Prod.mk.injEq] at falls
    exact ⟨x, y, lit, falls.1, falls.2⟩
  · rintro ⟨x, y, lit, rfl, rfl⟩
    exact ⟨_, Grid.mem_litPoints.mpr ⟨x, y, lit, rfl⟩,
      place?_canvas wide high (Grid.onScreen_of_get lit)⟩

/-! ### The frame -/

def textAt (terminal : Terminal toolkit columns rows) (row column : Nat) : String :=
  (terminal.drawing.get column row).text

/-- What the texts at the places of a surface amount to: a frame at the upper left with room for
`width` columns and `height` rows, the title over its top from the corner on, blocks and blanks in it,
and nothing beyond. Every place of the surface is in one of the parts. -/
structure ShowsFramed (columns rows width height : Nat) (title : List String)
    (block : Nat → Nat → Prop) (text : Nat → Nat → String) : Prop where
  topLeft : text 0 0 = "┌"
  topRight : text 0 (width + 1) = "┐"
  bottomLeft : text (height + 1) 0 = "└"
  bottomRight : text (height + 1) (width + 1) = "┘"
  titled : ∀ column < width, ∀ character, title[column]? = some character →
    text 0 (column + 1) = character
  untitled : ∀ column < width, title.length ≤ column → text 0 (column + 1) = "─"
  bottom : ∀ column < width, text (height + 1) (column + 1) = "─"
  leftSide : ∀ row < height, text (row + 1) 0 = "│"
  rightSide : ∀ row < height, text (row + 1) (width + 1) = "│"
  lit : ∀ column < width, ∀ row < height, block column row → text (row + 1) (column + 1) = "▄"
  dark : ∀ column < width, ∀ row < height, ¬block column row → text (row + 1) (column + 1) = " "
  beyond : ∀ row < rows, ∀ column < columns, height + 2 ≤ row ∨ width + 2 ≤ column →
    text row column = " "

theorem ShowsFramed.block_iff {columns rows width height column row : Nat} {title : List String}
    {block : Nat → Nat → Prop} {text : Nat → Nat → String}
    (framed : ShowsFramed columns rows width height title block text) (inside : column < width)
    (below : row < height) : text (row + 1) (column + 1) = "▄" ↔ block column row := by
  constructor
  · intro stands
    refine Classical.byContradiction fun none => ?_
    rw [framed.dark column inside row below none] at stands
    exact absurd stands (by decide)
  · exact framed.lit column inside row below

theorem ShowsFramed.forall_text {columns rows width height : Nat} {title : List String}
    {block : Nat → Nat → Prop} {text : Nat → Nat → String} {P : String → Prop}
    (framed : ShowsFramed columns rows width height title block text)
    (plain : ∀ other ∈ ["┌", "┐", "└", "┘", "─", "│", "▄", " "], P other)
    (titled : ∀ character ∈ title, P character) {row column : Nat} (below : row < rows)
    (inside : column < columns) : P (text row column) := by
  have parts : ∀ {size place : Nat}, place < size + 2 →
      place = 0 ∨ place = size + 1 ∨ ∃ inner < size, place = inner + 1 := by
    intro size place within
    rcases Nat.eq_zero_or_pos place with first | behind
    · exact Or.inl first
    · by_cases last : place = size + 1
      · exact Or.inr (Or.inl last)
      · exact Or.inr (Or.inr ⟨place - 1, by omega, by omega⟩)
  by_cases outside : height + 2 ≤ row ∨ width + 2 ≤ column
  · rw [framed.beyond row below column inside outside]
    exact plain _ (by decide)
  · rw [not_or, Nat.not_le, Nat.not_le] at outside
    rcases parts outside.1 with rfl | rfl | ⟨y, high, rfl⟩ <;>
      rcases parts outside.2 with rfl | rfl | ⟨x, wide, rfl⟩
    · rw [framed.topLeft]
      exact plain _ (by decide)
    · rw [framed.topRight]
      exact plain _ (by decide)
    · rcases Nat.lt_or_ge x title.length with above | behind
      · rw [framed.titled x wide _ (List.getElem?_eq_getElem above)]
        exact titled _ (List.getElem_mem above)
      · rw [framed.untitled x wide behind]
        exact plain _ (by decide)
    · rw [framed.bottomLeft]
      exact plain _ (by decide)
    · rw [framed.bottomRight]
      exact plain _ (by decide)
    · rw [framed.bottom x wide]
      exact plain _ (by decide)
    · rw [framed.leftSide y high]
      exact plain _ (by decide)
    · rw [framed.rightSide y high]
      exact plain _ (by decide)
    · by_cases falls : block x y
      · rw [framed.lit x wide y high falls]
        exact plain _ (by decide)
      · rw [framed.dark x wide y high falls]
        exact plain _ (by decide)

theorem showsFramed_of_drawnIn {canvas : Canvas} {title : List Symbol} {width height : Nat}
    {after : Buffer columns rows}
    (drawn : canvas.DrawnIn title ⟨0, 0, width + 2, height + 2⟩ .blank after)
    {block : Nat → Nat → Prop}
    (marks_iff : ∀ column row, canvas.Marks width height column row ↔ block column row) :
    ShowsFramed columns rows width height (title.map Symbol.text) block
      fun row column => (after.get column row).text := by
  obtain ⟨topLeft, topRight, bottomLeft, bottomRight, titled, untitled, bottom, leftSide, rightSide,
    marked, unmarked, outside⟩ := drawn
  simp only [Nat.zero_add, Nat.add_sub_cancel, Nat.reduceSubDiff, Buffer.get_blank,
    marks_iff] at *
  constructor
  case titled =>
    intro column inside character listed
    rw [List.getElem?_map, Option.map_eq_some_iff] at listed
    obtain ⟨symbol, listed, rfl⟩ := listed
    rw [titled column inside symbol listed]
  case untitled =>
    intro column inside behind
    rw [List.length_map] at behind
    rw [untitled column inside behind]
    rfl
  case beyond =>
    intro row _ column _ beyond
    rw [outside column row (by unfold Rect.Contains; dsimp only; omega)]
    rfl
  case lit =>
    intro column inside row below falls
    rw [marked column inside row below falls]
    rfl
  case dark =>
    intro column inside row below misses
    rw [unmarked column inside row below misses]
    rfl
  case bottom =>
    intro column inside
    rw [bottom column inside]
    rfl
  case leftSide =>
    intro row inside
    rw [leftSide row inside]
    rfl
  case rightSide =>
    intro row inside
    rw [rightSide row inside]
    rfl
  case topLeft => rw [topLeft]; rfl
  case topRight => rw [topRight]; rfl
  case bottomLeft => rw [bottomLeft]; rfl
  case bottomRight => rw [bottomRight]; rfl

theorem showsFramed_drawing (documented : toolkit.Documented) (wide : 3 ≤ columns) (high : 3 ≤ rows)
    (single : toolkit.SingleWidth terminal.title) :
    ShowsFramed columns rows (min columns 66 - 2) (min rows 34 - 2)
      ((toolkit.symbols terminal.title).map Symbol.text)
      (terminal.picture.FallsOn (min columns 66 - 2) (min rows 34 - 2)) terminal.textAt := by
  have area : toolkit.intersection Resolution.screen.area (Toolkit.full columns rows) =
      ⟨0, 0, min columns 66 - 2 + 2, min rows 34 - 2 + 2⟩ := by
    rw [intersection_area documented, Rect.mk.injEq]
    omega
  have drawn := documented.canvas_drawn terminal.canvas
    ⟨0, 0, min columns 66 - 2 + 2, min rows 34 - 2 + 2⟩ (.blank : Buffer columns rows)
    terminal.canvas_regular (by dsimp only; omega) (by dsimp only; omega) (by dsimp only; omega)
    (by dsimp only; omega) single
  have drawing_eq : terminal.drawing = toolkit.canvas terminal.canvas
      ⟨0, 0, min columns 66 - 2 + 2, min rows 34 - 2 + 2⟩ .blank := by
    rw [drawing, drawOn, area]
  rw [← drawing_eq] at drawn
  exact showsFramed_of_drawnIn drawn (marks_iff_fallsOn (by omega) (by omega))

theorem length_of_mem_lines {buffer : Buffer columns rows}
    (single : ∀ row < rows, ∀ column < columns, (buffer.get column row).text.length = 1)
    {line : String} (listed : line ∈ buffer.lines) : line.length = columns := by
  obtain ⟨row, among, rfl⟩ := List.mem_map.mp listed
  have below := List.mem_range.mp among
  have ones : ((List.range columns).map fun column => (buffer.get column row).text).map
      String.length = List.replicate columns 1 := by
    rw [List.map_map]
    refine List.eq_replicate_iff.mpr ⟨by rw [List.length_map, List.length_range], ?_⟩
    intro length among
    obtain ⟨column, inside, rfl⟩ := List.mem_map.mp among
    exact single row below column (List.mem_range.mp inside)
  rw [String.length_join, ones, List.sum_replicate_nat, Nat.mul_one]

/-- Whatever has been shown before, a terminal that shows a picture has it in a frame at the upper
left, scaled down as far as there is no room for it, with the title over the frame: a place inside has
a block exactly if a lit pixel falls on it. So no pixel is lost or leaves the frame, blocks stand there
exactly if a pixel is lit, and with room for the whole picture each pixel has its own place. -/
theorem render_shows_framed_picture (documented : toolkit.Documented) (wide : 3 ≤ columns)
    (high : 3 ≤ rows) {drawn : Terminal toolkit columns rows}
    (before : toolkit.Drawn terminal.state) (single : toolkit.SingleWidth terminal.title)
    (rendered : Display.render terminal = (.ok (), drawn)) :
    let picture := terminal.picture
    let title := (toolkit.symbols terminal.title).map Symbol.text
    let width := min columns 66 - 2
    let height := min rows 34 - 2
    (drawn.shown = (List.range rows).map fun row =>
        String.join ((List.range columns).map (terminal.textAt row))) ∧
      ((∀ character ∈ title, character.length = 1) →
        ∀ line ∈ drawn.shown, line.length = columns) ∧
      ShowsFramed columns rows width height title (picture.FallsOn width height) terminal.textAt ∧
      (∀ x y, picture.get x y = true → ∃ column < width, ∃ row < height,
        x * (width - 1) / 63 = column ∧ y * (height - 1) / 31 = row ∧
          terminal.textAt (row + 1) (column + 1) = "▄") ∧
      ((∃ column < width, ∃ row < height, terminal.textAt (row + 1) (column + 1) = "▄") ↔
        ∃ x y, picture.get x y = true) ∧
      (66 ≤ columns → 34 ≤ rows → ∀ x < 64, ∀ y < 32,
        terminal.textAt (y + 1) (x + 1) = if picture.get x y then "▄" else " ") := by
  intro picture title width height
  have framed : ShowsFramed columns rows width height title (picture.FallsOn width height)
      terminal.textAt := showsFramed_drawing documented wide high single
  have shown : drawn.shown = terminal.drawing.lines := by
    have shows := shows_render documented before single (congrArg Prod.fst rendered)
    rw [rendered] at shows
    obtain rfl : (Display.render terminal).2 = drawn := congrArg Prod.snd rendered
    exact shows.shown_eq
  have someColumn : 0 < width := by omega
  have someRow : 0 < height := by omega
  have found : ∀ x y, picture.get x y = true → ∃ column < width, ∃ row < height,
      x * (width - 1) / 63 = column ∧ y * (height - 1) / 31 = row ∧
        terminal.textAt (row + 1) (column + 1) = "▄" := by
    intro x y lit
    obtain ⟨column, inside, row, below, across, down, falls⟩ :=
      Grid.fallsOn_of_lit someColumn someRow lit
    exact ⟨column, inside, row, below, across, down, framed.lit column inside row below falls⟩
  refine ⟨shown, ?_, framed, found, ⟨?_, ?_⟩, ?_⟩
  · intro simple line listed
    rw [shown] at listed
    refine length_of_mem_lines (fun row below column inside => ?_) listed
    exact framed.forall_text (P := fun text => text.length = 1) (by decide) simple below inside
  · rintro ⟨column, inside, row, below, stands⟩
    obtain ⟨x, y, lit, _⟩ := (framed.block_iff inside below).mp stands
    exact ⟨x, y, lit⟩
  · rintro ⟨x, y, lit⟩
    obtain ⟨column, inside, row, below, _, _, stands⟩ := found x y lit
    exact ⟨column, inside, row, below, stands⟩
  · intro allColumns allRows x left y above
    have fullWidth : width = 64 := by omega
    have fullHeight : height = 32 := by omega
    have own : picture.FallsOn width height x y ↔ picture.get x y = true := by
      rw [fullWidth, fullHeight]
      exact Grid.fallsOn_full
    split
    · rename_i lit
      exact framed.lit x (by omega) y (by omega) (own.mpr lit)
    · rename_i dark
      exact framed.dark x (by omega) y (by omega) (mt own.mp dark)

/-- A title is cut off over a frame of three columns, on a terminal that has had wide titles. -/
theorem paused_title_over_small_frame :
    ∃ begun shown again terminal drawn : Terminal .standard 5 4,
      start .standard 5 4 = .ok begun ∧
        Display.render (begun.setTitle "漢字") = (.ok (), shown) ∧
        Display.render (shown.setTitle "字漢") = (.ok (), again) ∧
        terminal =
          { again.setTitle "CHIP-8 [paused]" with picture := Grid.blank.set 63 31 true } ∧
        Toolkit.standard.Documented ∧ 3 ≤ 5 ∧ 3 ≤ 4 ∧ Toolkit.standard.Drawn terminal.state ∧
        Toolkit.standard.SingleWidth terminal.title ∧
        Display.render terminal = (.ok (), drawn) ∧
        terminal.textAt 0 3 = "I" ∧ terminal.textAt 2 3 = "▄" ∧ terminal.textAt 1 3 = " " ∧
        ∀ line ∈ drawn.shown, line.length = 5 := by
  let begun : Terminal .standard 5 4 := ⟨Surface.blank 5 4, Grid.blank, "CHIP-8"⟩
  let shown := (Display.render (begun.setTitle "漢字")).2
  let again := (Display.render (shown.setTitle "字漢")).2
  let terminal : Terminal .standard 5 4 :=
    { again.setTitle "CHIP-8 [paused]" with picture := Grid.blank.set 63 31 true }
  have before : Toolkit.standard.Drawn terminal.state := .draw (.draw (.start rfl) rfl) rfl
  have single : Toolkit.standard.SingleWidth terminal.title :=
    Toolkit.standard_documented.singleWidth_printable
      (show ∀ character ∈ "CHIP-8 [paused]".toList,
        32 ≤ character.toNat ∧ character.toNat < 127 by simp)
  have rendered : Display.render terminal = (.ok (), (Display.render terminal).2) := rfl
  obtain ⟨_, filled, framed, found, _⟩ := render_shows_framed_picture
    Toolkit.standard_documented (show 3 ≤ 5 by decide) (show 3 ≤ 4 by decide) before single rendered
  have lit : terminal.picture.get 63 31 = true := by
    change (Grid.blank.set 63 31 true).get 63 31 = true
    rw [Grid.get_set, if_pos (by decide)]
  obtain ⟨_, _, _, _, rfl, rfl, stands⟩ := found 63 31 lit
  have missed : ¬terminal.picture.FallsOn 3 2 2 0 := by
    rintro ⟨x, y, shown, across, down⟩
    change (Grid.blank.set 63 31 true).get x y = true at shown
    rw [Grid.get_set] at shown
    split at shown
    · rename_i here
      obtain ⟨_, _, rfl⟩ := here
      exact absurd down (by decide)
    · rw [Grid.get_blank] at shown
      cases shown
  have simple : ∀ character ∈ (Toolkit.standard.symbols terminal.title).map Symbol.text,
      character.length = 1 := by
    decide +kernel
  exact ⟨begun, shown, again, terminal, _, rfl, rfl, rfl, rfl, Toolkit.standard_documented,
    by decide, by decide, before, single, rendered,
    framed.titled 2 (by decide) "I" (by decide +kernel), stands,
    framed.dark 2 (by decide) 0 (by decide) missed, filled simple⟩

end Terminal

end Chip8
