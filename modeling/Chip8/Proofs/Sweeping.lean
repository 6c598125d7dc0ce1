import Chip8.Proofs.DisplayMirror
/-!
A sweep as a walk over the screen that looks at the notes it takes away: at each cell, row by row, the cell
is painted and its mark taken off if it is due by then, and at the end the redraw of the whole screen is
taken back. What is painted is what was due before the walk began, since no turn touches the notes of a cell
whose turn is still to come.
-/

namespace Chip8

/-- Row by row, and from the left in each row. -/
def Cell.Before (first second : Cell) : Prop :=
  first.y < second.y ∨ (first.y = second.y ∧ first.x < second.x)

theorem pairwise_positions :
    positions.Pairwise fun first second =>
      first.2 < second.2 ∨ (first.2 = second.2 ∧ first.1 < second.1) := by
  refine List.pairwise_flatMap.mpr ⟨?_, ?_⟩
  · intro y _
    refine List.pairwise_map.mpr (List.pairwise_lt_range.imp ?_)
    intro left right apart
    exact Or.inr ⟨rfl, apart⟩
  · refine List.pairwise_lt_range.imp ?_
    intro above below apart first listedFirst second listedSecond
    obtain ⟨_, _, rfl⟩ := List.mem_map.mp listedFirst
    obtain ⟨_, _, rfl⟩ := List.mem_map.mp listedSecond
    exact Or.inl apart

theorem nodup_positions : positions.Nodup := by
  refine pairwise_positions.imp ?_
  rintro first second apart rfl
  rcases apart with above | ⟨_, left⟩
  · exact Nat.lt_irrefl _ above
  · exact Nat.lt_irrefl _ left

theorem length_positions : positions.length = 2048 := by
  rw [positions, List.length_flatMap]
  simp only [List.length_map, List.length_range, screenWidth, screenHeight]
  rfl

/-- A sweep on its way: the screen as it is by now, the cells painted so far, and their count. -/
structure Sweep where
  screen : Screen
  painted : List Cell
  count : Nat
  deriving DecidableEq, Repr

def Sweep.visit (sweep : Sweep) (x y : Nat) : Sweep :=
  if sweep.screen.isDue x y then
    { screen := sweep.screen.unmark x y
      painted := sweep.painted ++ [⟨x, y, sweep.screen.pixels.get x y⟩]
      count := sweep.count + 1 }
  else sweep

namespace Screen

def walked (screen : Screen) : Sweep :=
  (List.range screenHeight).foldl
    (fun above y => (List.range screenWidth).foldl (fun left x => left.visit x y) above)
    ⟨screen, [], 0⟩

def sweep (screen : Screen) : Sweep :=
  { screen.walked with screen := screen.walked.screen.setAllDue false }

theorem get_unmark (screen : Screen) (x y column row : Nat) :
    (screen.unmark x y).marked.get column row =
      if column = x ∧ row = y then false else screen.marked.get column row := by
  rw [unmark, Grid.get_set]
  by_cases here : column = x ∧ row = y
  · obtain ⟨rfl, rfl⟩ := here
    by_cases inside : OnScreen column row
    · rw [if_pos ⟨inside, rfl, rfl⟩, if_pos ⟨rfl, rfl⟩]
    · rw [if_neg fun both => inside both.1, if_pos ⟨rfl, rfl⟩]
      exact screen.marked.get_of_not_onScreen inside
  · rw [if_neg fun all => here all.2, if_neg here]

/-! ### One turn -/

def dueAmong (screen : Screen) (visited : List (Nat × Nat)) : List Cell :=
  (visited.filter fun position => screen.isDue position.1 position.2).map fun position =>
    ⟨position.1, position.2, screen.pixels.get position.1 position.2⟩

/-- What a sweep has come to when it has been at these positions: they have lost their marks, and those
that were due at the start have been painted. -/
structure SweptAt (screen : Screen) (visited : List (Nat × Nat)) (sweep : Sweep) : Prop where
  pixels : sweep.screen.pixels = screen.pixels
  allDue : sweep.screen.allDue = screen.allDue
  marked : ∀ x y, sweep.screen.marked.get x y =
    if (x, y) ∈ visited then false else screen.marked.get x y
  painted : sweep.painted = screen.dueAmong visited
  count : sweep.count = sweep.painted.length

theorem SweptAt.start (screen : Screen) : screen.SweptAt [] ⟨screen, [], 0⟩ where
  pixels := rfl
  allDue := rfl
  marked := fun _ _ => rfl
  painted := rfl
  count := rfl

variable {screen : Screen} {visited : List (Nat × Nat)} {sweep : Sweep} {x y : Nat}

theorem SweptAt.isDue (swept : screen.SweptAt visited sweep) (ahead : (x, y) ∉ visited) :
    sweep.screen.isDue x y = screen.isDue x y := by
  rw [Screen.isDue, Screen.isDue, swept.allDue, swept.marked, if_neg ahead]

theorem dueAmong_concat (screen : Screen) (visited : List (Nat × Nat)) (x y : Nat) :
    screen.dueAmong (visited ++ [(x, y)]) =
      screen.dueAmong visited ++
        if screen.isDue x y then [⟨x, y, screen.pixels.get x y⟩] else [] := by
  unfold dueAmong
  rw [List.filter_append, List.map_append]
  congr 1
  by_cases due : screen.isDue x y
  · rw [if_pos due]
    simp only [List.filter_cons, due, if_true, List.filter_nil, List.map_cons, List.map_nil]
  · rw [if_neg due]
    simp only [List.filter_cons, due, Bool.false_eq_true, if_false, List.filter_nil, List.map_nil]

theorem SweptAt.visit (swept : screen.SweptAt visited sweep) (ahead : (x, y) ∉ visited) :
    screen.SweptAt (visited ++ [(x, y)]) (sweep.visit x y) := by
  have sameDue := swept.isDue ahead
  have listed : ∀ column row, (column, row) ∈ visited ++ [(x, y)] ↔
      (column, row) ∈ visited ∨ (column = x ∧ row = y) := by
    intro column row
    rw [List.mem_append, List.mem_singleton, Prod.mk.injEq]
  unfold Sweep.visit
  by_cases due : screen.isDue x y
  · rw [if_pos (sameDue.trans due)]
    refine ⟨swept.pixels, swept.allDue, ?_, ?_, ?_⟩
    · intro column row
      rw [get_unmark, swept.marked]
      simp only [listed]
      by_cases here : column = x ∧ row = y
      · rw [if_pos here, if_pos (Or.inr here)]
      · simp only [here, or_false, if_false]
    · rw [dueAmong_concat, if_pos due, ← swept.painted, swept.pixels]
    · rw [List.length_append, ← swept.count]
      rfl
  · have plain : ¬sweep.screen.isDue x y = true := fun now => due (sameDue.symm.trans now)
    have unmarked : screen.marked.get x y = false := by
      rw [Screen.isDue, Bool.or_eq_true, not_or] at due
      exact Bool.not_eq_true _ ▸ due.2
    rw [if_neg plain]
    refine ⟨swept.pixels, swept.allDue, ?_, ?_, swept.count⟩
    · intro column row
      rw [swept.marked]
      simp only [listed]
      by_cases here : column = x ∧ row = y
      · obtain ⟨rfl, rfl⟩ := here
        rw [if_neg ahead, if_pos (Or.inr ⟨rfl, rfl⟩), unmarked]
      · simp only [here, or_false]
    · rw [dueAmong_concat, if_neg due, List.append_nil, swept.painted]

/-! ### The whole walk -/

theorem SweptAt.walk (swept : screen.SweptAt visited sweep) {ahead : List (Nat × Nat)}
    (once : (visited ++ ahead).Nodup) :
    screen.SweptAt (visited ++ ahead)
      (ahead.foldl (fun sweep position => sweep.visit position.1 position.2) sweep) := by
  induction ahead generalizing visited sweep with
  | nil =>
      rw [List.append_nil]
      exact swept
  | cons position rest ih =>
      have split : visited ++ position :: rest = (visited ++ [position]) ++ rest := by
        rw [List.append_assoc]
        rfl
      have notYet : position ∉ visited := by
        intro before
        exact (List.nodup_append.mp once).2.2 position before position List.mem_cons_self rfl
      rw [split] at once ⊢
      exact ih (swept.visit notYet) once

theorem walked_eq_foldl_positions (screen : Screen) :
    screen.walked =
      positions.foldl (fun sweep position => sweep.visit position.1 position.2)
        ⟨screen, [], 0⟩ := by
  rw [walked, positions, List.foldl_flatMap]
  simp only [List.foldl_map]

theorem sweptAt_walked (screen : Screen) : screen.SweptAt positions screen.walked := by
  rw [walked_eq_foldl_positions]
  exact (SweptAt.start screen).walk nodup_positions

theorem sweep_eq (screen : Screen) :
    screen.sweep = ⟨screen.swept, screen.dueCells, screen.dueCells.length⟩ := by
  have walked := screen.sweptAt_walked
  have unmarked : screen.walked.screen.marked = Grid.blank := by
    refine Grid.ext_get ?_
    intro x y inside
    rw [walked.marked, if_pos (mem_positions.mpr inside), Grid.get_blank]
  have painted : screen.walked.painted = screen.dueCells := walked.painted
  rw [sweep, walked.count, painted, setAllDue, unmarked, walked.pixels, swept]

theorem pairwise_dueCells (screen : Screen) : screen.dueCells.Pairwise Cell.Before :=
  List.pairwise_map.mpr (pairwise_positions.filter _)

theorem length_dueCells_of_allDue (all : screen.allDue = true) :
    screen.dueCells.length = 2048 := by
  have every : ∀ position ∈ positions, screen.isDue position.1 position.2 = true := by
    intro position _
    rw [Screen.isDue, all, Bool.true_or]
  rw [dueCells, List.length_map, List.filter_eq_self.mpr every, length_positions]

/-! ### Cells off the screen -/

end Screen

def ScreenOperation.Outside : ScreenOperation → Prop
  | .toggle x y | .mark x y | .unmark x y => ¬OnScreen x y
  | .setAllDue _ | .clear | .sweep => False

instance : DecidablePred ScreenOperation.Outside
  | .toggle x y | .mark x y | .unmark x y => inferInstanceAs (Decidable (¬OnScreen x y))
  | .setAllDue _ | .clear | .sweep => inferInstanceAs (Decidable False)

namespace Screen

def afterAll (screen : Screen) (operations : List ScreenOperation) : Screen :=
  operations.foldl after screen

theorem after_of_outside (screen : Screen) {operation : ScreenOperation}
    (outside : operation.Outside) : screen.after operation = screen := by
  cases operation with
  | toggle x y =>
      rw [after, toggle, screen.pixels.set_of_not_onScreen outside]
  | mark x y =>
      rw [after, mark, screen.marked.set_of_not_onScreen outside]
  | unmark x y =>
      rw [after, unmark, screen.marked.set_of_not_onScreen outside]
  | setAllDue _ | clear | sweep => exact outside.elim

theorem afterAll_filter_not_outside (screen : Screen) (operations : List ScreenOperation) :
    screen.afterAll (operations.filter fun operation => ¬operation.Outside) =
      screen.afterAll operations := by
  induction operations generalizing screen with
  | nil => rfl
  | cons operation rest ih =>
      by_cases outside : operation.Outside
      · rw [List.filter_cons_of_neg (by simpa using outside), ih]
        change _ = (screen.after operation).afterAll rest
        rw [screen.after_of_outside outside]
      · rw [List.filter_cons_of_pos (by simpa using outside)]
        exact ih (screen.after operation)

/-- A sweep paints the cells that are due, each once, row by row and with its pixel, and counts them; the
pixels stay, and nothing is due any more. What is done off the screen reads as off and leaves no trace in
any history, so no sweep ever shows it. -/
theorem sweep_paints_due_cells_once (screen : Screen) :
    let sweep := screen.sweep
    (∀ cell, cell ∈ sweep.painted ↔
        OnScreen cell.x cell.y ∧
          (screen.marked.get cell.x cell.y = true ∨ screen.allDue = true) ∧
          cell.lit = screen.pixels.get cell.x cell.y) ∧
      sweep.painted.Pairwise Cell.Before ∧
      (screen.allDue = true → sweep.painted.length = 2048) ∧
      sweep.count = sweep.painted.length ∧
      sweep.screen.pixels = screen.pixels ∧
      (∀ x y, sweep.screen.marked.get x y = false) ∧
      sweep.screen.allDue = false ∧
      sweep.screen.sweep = ⟨sweep.screen, [], 0⟩ ∧
      sweep = ⟨screen.swept, screen.dueCells, screen.dueCells.length⟩ ∧
      (∀ x y, ¬OnScreen x y →
        screen.pixels.get x y = false ∧ screen.marked.get x y = false ∧
          screen.toggle x y = screen ∧ screen.mark x y = screen ∧ screen.unmark x y = screen) ∧
      ∀ operations : List ScreenOperation,
        screen.afterAll (operations.filter fun operation => ¬operation.Outside) =
          screen.afterAll operations := by
  intro sweep
  have walked : sweep = ⟨screen.swept, screen.dueCells, screen.dueCells.length⟩ := screen.sweep_eq
  rw [walked]
  refine ⟨?_, screen.pairwise_dueCells, length_dueCells_of_allDue, rfl, rfl, Grid.get_blank, rfl,
    ?_, rfl, ?_, screen.afterAll_filter_not_outside⟩
  · intro cell
    rw [mem_dueCells, Screen.isDue, Bool.or_eq_true, or_comm]
  · rw [sweep_eq, dueCells_swept]
    rfl
  · intro x y outside
    exact ⟨screen.pixels.get_of_not_onScreen outside, screen.marked.get_of_not_onScreen outside,
      screen.after_of_outside (show (ScreenOperation.toggle x y).Outside from outside),
      screen.after_of_outside (show (ScreenOperation.mark x y).Outside from outside),
      screen.after_of_outside (show (ScreenOperation.unmark x y).Outside from outside)⟩

/-- Two cells are marked from right to left, one of them lit, and others beyond the edges. -/
theorem marks_at_corner_swept :
    let screen := Screen.blank.afterAll
      [.toggle 63 31, .mark 63 31, .mark 2 31, .mark 64 31, .toggle 0 32, .unmark 3 31]
    (⟨2, 31, false⟩ ∈ screen.sweep.painted ∧ ⟨63, 31, true⟩ ∈ screen.sweep.painted ∧
        ⟨64, 31, false⟩ ∉ screen.sweep.painted) ∧
      screen.sweep.screen.pixels.get 63 31 = true ∧
      (screen.setAllDue true).sweep.painted.length = 2048 ∧
      screen.pixels.get 64 31 = false ∧ screen.toggle 64 31 = screen := by
  intro screen
  have left : screen.marked.get 2 31 = true ∧ screen.pixels.get 2 31 = false := by decide +kernel
  have right : screen.marked.get 63 31 = true ∧ screen.pixels.get 63 31 = true := by
    decide +kernel
  clear_value screen
  obtain ⟨painted, _, _, _, pixels, _, _, _, _, outside, _⟩ := sweep_paints_due_cells_once screen
  obtain ⟨_, _, all, _⟩ := sweep_paints_due_cells_once (screen.setAllDue true)
  obtain ⟨dark, _, untouched, _, _⟩ := outside 64 31 (by decide)
  refine ⟨⟨?_, ?_, ?_⟩, ?_, all rfl, dark, untouched⟩
  · exact (painted _).mpr ⟨by decide, Or.inl left.1, left.2.symm⟩
  · exact (painted _).mpr ⟨by decide, Or.inl right.1, right.2.symm⟩
  · intro listed
    exact absurd ((painted _).mp listed).1 (by decide)
  · rw [pixels]
    exact right.2

end Screen

end Chip8
