import Chip8.Display.Terminal
import Chip8.Proofs.WellFormed
/-!
A display that only ever hears of the cells that are due still follows the screen. Every cell in
which its picture differs from the pixels is due: what changes a pixel leaves a note, and a sweep
removes the notes only by painting what they name.
-/

namespace Chip8

def Grid.paint (grid : Grid) (cell : Cell) : Grid :=
  grid.set cell.x cell.y cell.lit

/-- A display with a picture that painting changes cell by cell and showing leaves alone. -/
class PictureDisplay (δ : Type) extends Display δ where
  picture : δ → Grid
  picture_paint : ∀ display cell, picture (paint display cell) = (picture display).paint cell
  picture_render : ∀ display, picture (render display).2 = picture display

instance {toolkit : Toolkit} {columns rows : Nat} :
    PictureDisplay (Terminal toolkit columns rows) where
  picture := Terminal.picture
  picture_paint := fun _ _ => rfl
  picture_render := fun _ => rfl

def PaintRecord.replay (record : PaintRecord) : Grid :=
  record.cells.foldl Grid.paint Grid.blank

instance : PictureDisplay PaintRecord where
  picture := PaintRecord.replay
  picture_paint := fun _ _ => Array.foldl_push
  picture_render := fun _ => rfl

namespace Screen

/-- Wherever a picture differs from the pixels, the cell is due. -/
def MirroredBy (screen : Screen) (picture : Grid) : Prop :=
  ∀ x y, picture.get x y ≠ screen.pixels.get x y → screen.isDue x y = true

/-! ### What the machine does to the screen -/

theorem mirroredBy_blank : blank.MirroredBy Grid.blank := by
  intro x y differ
  exact absurd rfl differ

theorem mirroredBy_setAllDue (screen : Screen) (picture : Grid) :
    (screen.setAllDue true).MirroredBy picture := by
  intro x y _
  rfl

theorem MirroredBy.toggle_mark {screen : Screen} {picture : Grid}
    (mirrored : screen.MirroredBy picture) (x y : Nat) :
    ((screen.toggle x y).mark x y).MirroredBy picture := by
  intro column row differ
  change picture.get column row ≠ (screen.toggle x y).pixels.get column row at differ
  change (screen.allDue || ((screen.toggle x y).mark x y).marked.get column row) = true
  rw [get_toggle] at differ
  rw [get_mark]
  by_cases here : OnScreen x y ∧ column = x ∧ row = y
  · rw [if_pos here, Bool.or_true]
  · rw [if_neg here] at differ ⊢
    exact mirrored column row differ

theorem MirroredBy.flip {screen : Screen} {picture : Grid} (mirrored : screen.MirroredBy picture)
    (cells : List (Nat × Nat)) : (screen.flip cells).1.MirroredBy picture := by
  induction cells generalizing screen with
  | nil => exact mirrored
  | cons cell rest ih => exact ih (mirrored.toggle_mark cell.1 cell.2)

/-! ### What a sweep does -/

theorem get_foldl_paint {screen : Screen} {cells : List Cell} {x y : Nat}
    (truthful : ∀ cell ∈ cells, OnScreen cell.x cell.y ∧
      cell.lit = screen.pixels.get cell.x cell.y) (picture : Grid)
    (told : picture.get x y = screen.pixels.get x y ∨
      ∃ cell ∈ cells, cell.x = x ∧ cell.y = y) :
    (cells.foldl Grid.paint picture).get x y = screen.pixels.get x y := by
  induction cells generalizing picture with
  | nil =>
      rcases told with equal | ⟨cell, listed, _⟩
      · exact equal
      · cases listed
  | cons head rest ih =>
      obtain ⟨inside, lit⟩ := truthful head List.mem_cons_self
      refine ih (fun cell listed => truthful cell (List.mem_cons_of_mem head listed))
        (picture.paint head) ?_
      rw [Grid.paint, Grid.get_set]
      by_cases here : x = head.x ∧ y = head.y
      · obtain ⟨rfl, rfl⟩ := here
        rw [if_pos ⟨inside, rfl, rfl⟩]
        exact Or.inl lit
      · rw [if_neg fun both => here both.2]
        rcases told with equal | ⟨cell, listed, rfl, rfl⟩
        · exact Or.inl equal
        · rcases List.mem_cons.mp listed with rfl | later
          · exact absurd ⟨rfl, rfl⟩ here
          · exact Or.inr ⟨cell, later, rfl, rfl⟩

theorem MirroredBy.foldl_paint {screen : Screen} {picture : Grid}
    (mirrored : screen.MirroredBy picture) :
    screen.dueCells.foldl Grid.paint picture = screen.pixels := by
  refine Grid.ext_get ?_
  intro x y inside
  have truthful : ∀ cell ∈ screen.dueCells, OnScreen cell.x cell.y ∧
      cell.lit = screen.pixels.get cell.x cell.y := by
    intro cell listed
    obtain ⟨onScreen, _, lit⟩ := mem_dueCells.mp listed
    exact ⟨onScreen, lit⟩
  refine get_foldl_paint truthful picture ?_
  by_cases equal : picture.get x y = screen.pixels.get x y
  · exact Or.inl equal
  · have listed : ⟨x, y, screen.pixels.get x y⟩ ∈ screen.dueCells :=
      mem_dueCells.mpr ⟨inside, mirrored x y equal, rfl⟩
    exact Or.inr ⟨_, listed, rfl, rfl⟩

theorem isDue_swept (screen : Screen) (x y : Nat) : screen.swept.isDue x y = false :=
  Grid.get_blank x y

theorem mirroredBy_swept (screen : Screen) : screen.swept.MirroredBy screen.pixels := by
  intro x y differ
  exact absurd rfl differ

theorem dueCells_swept (screen : Screen) : screen.swept.dueCells = [] := by
  refine List.eq_nil_iff_forall_not_mem.mpr ?_
  intro cell listed
  have due := (mem_dueCells.mp listed).2.1
  rw [isDue_swept] at due
  cases due

end Screen

namespace Machine

theorem screenAfter_mirroredBy {machine : Machine} {picture : Grid}
    (mirrored : machine.screen.MirroredBy picture) (instruction : Instruction) :
    (machine.screenAfter instruction).MirroredBy picture := by
  cases instruction with
  | clear => exact Screen.mirroredBy_setAllDue Screen.blank picture
  | draw x y rows => exact mirrored.flip _
  | awaitKey x =>
      unfold screenAfter
      dsimp only
      split
      · exact mirrored
      · exact Screen.mirroredBy_setAllDue machine.screen picture
  | _ => exact mirrored

theorem stepped_mirroredBy {machine : Machine} {picture : Grid}
    (mirrored : machine.screen.MirroredBy picture) :
    machine.stepped.screen.MirroredBy picture := by
  rcases machine.stepped_cases with ⟨_, _, updated⟩ | ⟨_, unchanged⟩
  · rw [updated]
    exact screenAfter_mirroredBy mirrored machine.current
  · rw [unchanged]
    exact mirrored

theorem afterMove_mirroredBy {machine : Machine} {picture : Grid}
    (mirrored : machine.screen.MirroredBy picture) (move : Move) :
    (machine.afterMove move).screen.MirroredBy picture := by
  refine afterMove_induction (fun machine => machine.screen.MirroredBy picture) ?_ ?_ ?_
    mirrored move
  · intro before here
    exact here
  · intro before here
    exact stepped_mirroredBy here
  · intro before operation here
    exact here

end Machine

/-! ### A machine and a display -/

structure Viewing (δ : Type) where
  machine : Machine
  display : δ

/-- The machine moves, or the display takes over what is due, shows its picture, or does both as
for a frame. -/
inductive ViewingStep where
  | move (move : Move)
  | update
  | render
  | present
  deriving DecidableEq, Repr

namespace Viewing

variable {δ : Type}

def swept (viewing : Viewing δ) : Machine :=
  { viewing.machine with screen := viewing.machine.screen.swept }

def after [Display δ] (viewing : Viewing δ) : ViewingStep → Viewing δ
  | .move move => ⟨viewing.machine.afterMove move, viewing.display⟩
  | .update => ⟨viewing.swept, Display.update viewing.display viewing.machine.screen⟩
  | .render => ⟨viewing.machine, (Display.render viewing.display).2⟩
  | .present => ⟨viewing.swept, (Display.present viewing.display viewing.machine.screen).2⟩

def afterAll [Display δ] (viewing : Viewing δ) (steps : List ViewingStep) : Viewing δ :=
  steps.foldl after viewing

def answer [Display δ] (viewing : Viewing δ) : ViewingStep → SystemAnswer
  | .move _ | .update => .ok ()
  | .render => (Display.render viewing.display).1
  | .present => (Display.present viewing.display viewing.machine.screen).1

/-- No attempt to show the picture fails. -/
def Answered [Display δ] : Viewing δ → List ViewingStep → Prop
  | _, [] => True
  | viewing, step :: rest => viewing.answer step = .ok () ∧ (viewing.after step).Answered rest

end Viewing

namespace PictureDisplay

variable {δ : Type} [PictureDisplay δ]

theorem picture_foldl_paint (display : δ) (cells : List Cell) :
    picture (cells.foldl Display.paint display) = cells.foldl Grid.paint (picture display) := by
  induction cells generalizing display with
  | nil => rfl
  | cons cell rest ih =>
      rw [List.foldl_cons, List.foldl_cons, ih, picture_paint]

theorem picture_update {display : δ} {screen : Screen}
    (mirrored : screen.MirroredBy (picture display)) :
    picture (Display.update display screen) = screen.pixels := by
  rw [Display.update, picture_foldl_paint]
  exact mirrored.foldl_paint

theorem picture_eq_of_dueCells_nil {display : δ} {screen : Screen}
    (mirrored : screen.MirroredBy (picture display)) (nothing : screen.dueCells = []) :
    picture display = screen.pixels := by
  have updated := mirrored.foldl_paint
  rw [nothing] at updated
  exact updated

theorem picture_present {display : δ} {screen : Screen}
    (mirrored : screen.MirroredBy (picture display)) :
    picture (Display.present display screen).2 = screen.pixels := by
  unfold Display.present
  split
  · rename_i nothing
    exact picture_eq_of_dueCells_nil mirrored (List.isEmpty_iff.mp nothing)
  · rw [picture_render]
    exact picture_update mirrored

end PictureDisplay

namespace Viewing

open PictureDisplay

variable {δ : Type} [PictureDisplay δ]

theorem after_mirroredBy {viewing : Viewing δ}
    (mirrored : viewing.machine.screen.MirroredBy (picture viewing.display))
    (step : ViewingStep) :
    (viewing.after step).machine.screen.MirroredBy (picture (viewing.after step).display) := by
  cases step with
  | move move => exact Machine.afterMove_mirroredBy mirrored move
  | update =>
      change viewing.machine.screen.swept.MirroredBy (picture (Display.update _ _))
      rw [picture_update mirrored]
      exact Screen.mirroredBy_swept _
  | render =>
      change viewing.machine.screen.MirroredBy (picture (Display.render viewing.display).2)
      rw [picture_render]
      exact mirrored
  | present =>
      change viewing.machine.screen.swept.MirroredBy (picture (Display.present _ _).2)
      rw [picture_present mirrored]
      exact Screen.mirroredBy_swept _

theorem after_copy {viewing : Viewing δ}
    (mirrored : viewing.machine.screen.MirroredBy (picture viewing.display))
    {step : ViewingStep} (copies : step = .update ∨ step = .present) :
    picture (viewing.after step).display = viewing.machine.screen.pixels ∧
      (viewing.after step).machine.screen = viewing.machine.screen.swept := by
  rcases copies with rfl | rfl
  · exact ⟨picture_update mirrored, rfl⟩
  · exact ⟨picture_present mirrored, rfl⟩

theorem afterAll_mirroredBy {viewing : Viewing δ}
    (mirrored : viewing.machine.screen.MirroredBy (picture viewing.display))
    (steps : List ViewingStep) :
    (viewing.afterAll steps).machine.screen.MirroredBy
      (picture (viewing.afterAll steps).display) := by
  induction steps generalizing viewing with
  | nil => exact mirrored
  | cons step rest ih => exact ih (after_mirroredBy mirrored step)

end Viewing

end Chip8
