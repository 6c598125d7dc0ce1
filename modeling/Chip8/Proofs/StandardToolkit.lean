import Chip8.Proofs.Redrawing
/-!
The standard toolkit does what is relied on. Printable characters are cut one by one, a canvas is drawn
place by place, and a terminal on which no attempt to draw has failed takes over a buffer of narrow
symbols as it is.
-/

namespace Chip8

/-! ### Printable characters -/

namespace Text

theorem ofCode_printable : ∀ code < 127, 32 ≤ code → BreakClass.ofCode code = .other := by
  decide

variable {before : Lookback} {code : Nat}

theorem joins_printable (behindOther : before.latest = .other) (low : 32 ≤ code)
    (high : code < 127) : before.joins code = false := by
  rw [Lookback.joins, behindOther, ofCode_printable code high low]
  rfl

theorem latest_pass_printable (low : 32 ≤ code) (high : code < 127) :
    (before.pass code).latest = .other :=
  ofCode_printable code high low

theorem clustersFrom_printable (behindOther : before.latest = .other) {text : List Char}
    (printable : ∀ character ∈ text, 32 ≤ character.toNat ∧ character.toNat < 127)
    (cluster : List Char) :
    clustersFrom before cluster text = cluster.reverse :: text.map fun character => [character] := by
  induction text generalizing before cluster with
  | nil => rfl
  | cons character later ih =>
      obtain ⟨low, high⟩ := printable character List.mem_cons_self
      have rest := fun other listed => printable other (List.mem_cons_of_mem character listed)
      rw [clustersFrom, joins_printable behindOther low high, if_neg Bool.false_ne_true,
        ih (latest_pass_printable low high) rest]
      rfl

theorem clusters_printable {text : List Char}
    (printable : ∀ character ∈ text, 32 ≤ character.toNat ∧ character.toNat < 127) :
    clusters text = text.map fun character => [character] := by
  cases text with
  | nil => rfl
  | cons character later =>
      obtain ⟨low, high⟩ := printable character List.mem_cons_self
      have rest := fun other listed => printable other (List.mem_cons_of_mem character listed)
      rw [clusters, clustersFrom_printable (latest_pass_printable low high) rest]
      rfl

theorem columns_printable {character : Char} (low : 32 ≤ character.toNat)
    (high : character.toNat < 127) : columns [character] = 1 := by
  have alone : measureAlone character.toNat = (1, .plain) := by
    rw [measureAlone, if_neg (by omega), if_pos (by omega)]
  rw [columns, List.foldr_cons, List.foldr_nil, measure, measureTogether, Option.getD_none, alone]
  rfl

theorem symbols_printable {text : String}
    (printable : ∀ character ∈ text.toList, 32 ≤ character.toNat ∧ character.toNat < 127) :
    symbols text = text.toList.map Symbol.narrow := by
  rw [symbols, clusters_printable printable, List.map_map]
  refine List.map_congr_left ?_
  intro character listed
  obtain ⟨low, high⟩ := printable character listed
  change (⟨String.ofList [character], columns [character]⟩ : Symbol) = Symbol.narrow character
  rw [columns_printable low high]
  rfl

end Text

/-! ### Canvases -/

namespace Symbol

theorem layOut_of_single {symbols : List Symbol}
    (single : ∀ symbol ∈ symbols, symbol.columns = 1) (room : Nat) :
    layOut room symbols = symbols.take room := by
  induction symbols generalizing room with
  | nil => rw [List.take_nil, layOut]
  | cons symbol later ih =>
      have here := single symbol List.mem_cons_self
      have rest := ih fun other listed => single other (List.mem_cons_of_mem symbol listed)
      rw [layOut, here, if_neg Nat.one_ne_zero]
      cases room with
      | zero => rfl
      | succ room =>
          rw [if_neg (by omega), List.take_succ_cons, ← rest]
          rfl

variable {width height : Nat} {title : List Symbol} {marks : List (Nat × Nat)} {before : Symbol}

theorem columns_inFrame_le (titleNarrow : ∀ symbol ∈ title, symbol.columns ≤ 1)
    (beforeNarrow : before.columns ≤ 1) (column row : Nat) :
    (inFrame width height title marks before column row).columns ≤ 1 := by
  have narrowTitle : ((title[column - 1]?).getD (narrow '─')).columns ≤ 1 := by
    cases listed : title[column - 1]? with
    | none => exact Nat.le_refl 1
    | some symbol => exact titleNarrow symbol (List.mem_of_getElem? listed)
  unfold inFrame
  repeat' split
  all_goals first | exact narrowTitle | exact beforeNarrow | exact Nat.le_refl 1

theorem inFrame_inside (column row : Nat) (within : column < width - 2) (below : row < height - 2) :
    inFrame width height title marks before (column + 1) (row + 1) =
      if (column, row) ∈ marks then narrow '▄' else before := by
  rw [inFrame, if_neg (by omega), if_neg (by omega), if_neg (by omega)]
  rfl

end Symbol

namespace Canvas

variable {columns rows : Nat} (canvas : Canvas) {area : Rect} (buffer : Buffer columns rows)

theorem get_drawIn_inside (across : area.x + area.width ≤ columns)
    (down : area.y + area.height ≤ rows) {column row : Nat} (inside : column < area.width)
    (below : row < area.height) :
    (canvas.drawIn area buffer).get (area.x + column) (area.y + row) =
      Symbol.inFrame area.width area.height
        (Symbol.layOut (area.width - 2) (Text.symbols canvas.title))
        (canvas.points.filterMap (canvas.place? (area.width - 2) (area.height - 2)))
        (buffer.get (area.x + column) (area.y + row)) column row := by
  have contained : area.Contains (area.x + column) (area.y + row) := by
    unfold Rect.Contains
    omega
  rw [drawIn, Buffer.get_ofFn _ (by omega) (by omega), if_pos contained, Nat.add_sub_cancel_left,
    Nat.add_sub_cancel_left]

theorem get_drawIn_outside {column row : Nat} (outside : ¬area.Contains column row) :
    (canvas.drawIn area buffer).get column row = buffer.get column row := by
  by_cases inside : column < columns ∧ row < rows
  · rw [drawIn, Buffer.get_ofFn _ inside.1 inside.2, if_neg outside]
  · rw [Buffer.get_of_outside _ (by omega), Buffer.get_of_outside _ (by omega)]

theorem mem_filterMap_place?_iff (width height column row : Nat) :
    (column, row) ∈ canvas.points.filterMap (canvas.place? width height) ↔
      canvas.Marks width height column row :=
  List.mem_filterMap

theorem drawIn_allNarrow (single : ∀ symbol ∈ Text.symbols canvas.title, symbol.columns = 1)
    (narrow : buffer.AllNarrow) : (canvas.drawIn area buffer).AllNarrow := by
  intro column row
  have titleNarrow : ∀ symbol ∈ Symbol.layOut (area.width - 2) (Text.symbols canvas.title),
      symbol.columns ≤ 1 := by
    intro symbol listed
    rw [Symbol.layOut_of_single single] at listed
    exact Nat.le_of_eq (single symbol (List.mem_of_mem_take listed))
  by_cases inside : column < columns ∧ row < rows
  · rw [drawIn, Buffer.get_ofFn _ inside.1 inside.2]
    split
    · exact Symbol.columns_inFrame_le titleNarrow (narrow column row) _ _
    · exact narrow column row
  · rw [Buffer.get_of_outside _ (by omega)]
    exact Nat.le_refl 1

theorem drawIn_drawnIn (wide : 2 ≤ area.width) (high : 2 ≤ area.height)
    (across : area.x + area.width ≤ columns) (down : area.y + area.height ≤ rows)
    (single : ∀ symbol ∈ Text.symbols canvas.title, symbol.columns = 1) :
    canvas.DrawnIn (Text.symbols canvas.title) area buffer (canvas.drawIn area buffer) := by
  have drawn := fun column row =>
    @canvas.get_drawIn_inside _ _ area buffer across down column row
  rw [Symbol.layOut_of_single single] at drawn
  have top := fun column inside => drawn column 0 inside (by omega)
  have bottom := fun column inside => drawn column (area.height - 1) inside (by omega)
  have left := fun row below => drawn 0 (row + 1) (by omega) below
  have right := fun row below => drawn (area.width - 1) (row + 1) (by omega) below
  have within := fun column row (inside : column < area.width - 2)
    (below : row < area.height - 2) => (drawn (column + 1) (row + 1) (by omega) (by omega)).trans
      (Symbol.inFrame_inside column row inside below)
  refine
    { topLeft := top 0 (by omega)
      topRight := (top (area.width - 1) (by omega)).trans ?_
      bottomLeft := (bottom 0 (by omega)).trans ?_
      bottomRight := (bottom (area.width - 1) (by omega)).trans ?_
      titled := fun column inside symbol listed => (top (column + 1) (by omega)).trans ?_
      untitled := fun column inside behind => (top (column + 1) (by omega)).trans ?_
      bottom := fun column inside => (bottom (column + 1) (by omega)).trans ?_
      leftSide := fun row below => (left row (by omega)).trans ?_
      rightSide := fun row below => (right row (by omega)).trans ?_
      marked := fun column inside row below falls => (within column row inside below).trans ?_
      unmarked := fun column inside row below misses => (within column row inside below).trans ?_
      outside := fun column row => canvas.get_drawIn_outside buffer }
  · rw [Symbol.inFrame, if_pos rfl, if_neg (by omega), if_pos (by omega)]
  · rw [Symbol.inFrame, if_neg (by omega), if_pos (by omega), if_pos rfl]
  · rw [Symbol.inFrame, if_neg (by omega), if_pos (by omega), if_neg (by omega), if_pos (by omega)]
  · rw [Symbol.inFrame, if_pos rfl, if_neg (by omega), if_neg (by omega), Nat.add_sub_cancel,
      List.getElem?_take_of_lt inside, listed, Option.getD_some]
  · rw [Symbol.inFrame, if_pos rfl, if_neg (by omega), if_neg (by omega), Nat.add_sub_cancel,
      List.getElem?_take_of_lt inside, List.getElem?_eq_none behind, Option.getD_none]
  · rw [Symbol.inFrame, if_neg (by omega), if_pos (by omega), if_neg (by omega), if_neg (by omega)]
  · rw [Symbol.inFrame, if_neg (by omega), if_neg (by omega), if_pos (Or.inl rfl)]
  · rw [Symbol.inFrame, if_neg (by omega), if_neg (by omega), if_pos (Or.inr (by omega))]
  · rw [if_pos ((canvas.mem_filterMap_place?_iff _ _ _ _).mpr falls)]
  · rw [if_neg (mt (canvas.mem_filterMap_place?_iff _ _ _ _).mp misses)]

end Canvas

/-! ### Drawing -/

namespace Buffer

variable {columns rows : Nat}

theorem toRows_eq (buffer : Buffer columns rows) :
    buffer.toRows = (List.range rows).map fun row =>
      (List.range columns).map fun column => buffer.get column row := by
  refine List.ext_getElem (by simp [toRows]) ?_
  intro row below _
  refine List.ext_getElem (by simp [toRows]) ?_
  intro column inside _
  have rowBound : row < rows := by simpa [toRows] using below
  have columnBound : column < columns := by simpa [toRows] using inside
  simp [toRows, get, rowBound, columnBound]

theorem length_of_mem_toRows {buffer : Buffer columns rows} {symbols : List Symbol}
    (listed : symbols ∈ buffer.toRows) : symbols.length = columns := by
  rw [toRows_eq] at listed
  obtain ⟨row, _, rfl⟩ := List.mem_map.mp listed
  rw [List.length_map, List.length_range]

theorem rowsFit_toRows {buffer : Buffer columns rows} (narrow : buffer.AllNarrow) :
    Surface.RowsFit columns buffer.toRows := by
  intro symbols listed
  refine ⟨Nat.le_of_eq (length_of_mem_toRows listed).symm, ?_⟩
  rw [toRows_eq] at listed
  obtain ⟨row, _, rfl⟩ := List.mem_map.mp listed
  intro symbol among
  obtain ⟨column, _, rfl⟩ := List.mem_map.mp among
  exact narrow column row

theorem length_toRows (buffer : Buffer columns rows) : buffer.toRows.length = rows := by
  rw [toRows_eq, List.length_map, List.length_range]

theorem lines_settledRows (buffer : Buffer columns rows) :
    Surface.lines (buffer.toRows.map (Surface.settledRow columns)) = buffer.lines := by
  rw [toRows_eq, Surface.lines, lines, List.map_map, List.map_map]
  refine List.map_congr_left ?_
  intro row _
  have filled : ((List.range columns).map fun column => buffer.get column row).length = columns := by
    rw [List.length_map, List.length_range]
  change String.join ((Surface.settledRow columns _).map fun place => place.standing.text) = _
  rw [Surface.settledRow, List.take_of_length_le (Nat.le_of_eq filled), List.map_map, List.map_map]
  rfl

end Buffer

namespace Toolkit

variable {columns rows : Nat}

theorem Drawn.kept {surface : standard.State columns rows} (drawn : standard.Drawn surface) :
    Surface.Kept columns surface ∧ List.length surface = rows := by
  induction drawn with
  | start started =>
      rw [← Except.ok.inj started]
      exact ⟨Surface.kept_blank columns rows, List.length_replicate⟩
  | @draw state next paint before drew ih =>
      obtain ⟨kept, sameLength⟩ := ih
      rw [← (Prod.mk.inj drew).2]
      exact ⟨kept.redraw fun _ listed => Nat.le_of_eq (Buffer.length_of_mem_toRows listed).symm,
        Surface.length_redraw (Buffer.length_toRows _) sameLength⟩

theorem standard_documented : standard.Documented where
  intersection_touching := fun _ _ _ _ => rfl
  symbols_plain := fun _ printable => Text.symbols_printable printable
  canvas_drawn := fun canvas _ buffer _ wide high across down single =>
    canvas.drawIn_drawnIn buffer wide high across down single
  canvas_narrow := fun canvas _ buffer _ _ _ single narrow =>
    canvas.drawIn_allNarrow buffer single narrow
  draw_shows := by
    intro columns rows state next paint drawn drew narrow
    obtain ⟨kept, sameLength⟩ := drawn.kept
    have redrawn := kept.redraw_eq (Buffer.rowsFit_toRows narrow)
      ((Buffer.length_toRows _).trans sameLength.symm)
    have shows : next = Surface.redraw state (paint (full columns rows) .blank).toRows :=
      (Prod.mk.inj drew).2.symm
    change Surface.lines next = _
    rw [shows, redrawn, Buffer.lines_settledRows]

end Toolkit

end Chip8
