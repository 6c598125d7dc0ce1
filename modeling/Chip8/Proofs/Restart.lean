import Chip8.Display.Surface
import Chip8.Proofs.DisplayMirror
import Chip8.Session.Command
/-!
A display across a reset or a load. Both blank the screen together with its notes, so nothing tells
the display to wipe out what the old program has drawn. The old picture stays until the new program
makes its cells due again, whereas the instruction that clears the screen makes every cell due.
-/

namespace Chip8

namespace Screen

theorem get_foldl_paint_of_untold {cells : List Cell} {x y : Nat}
    (untold : ∀ cell ∈ cells, ¬(cell.x = x ∧ cell.y = y)) (picture : Grid) :
    (cells.foldl Grid.paint picture).get x y = picture.get x y := by
  induction cells generalizing picture with
  | nil => rfl
  | cons head rest ih =>
      have elsewhere : ¬(OnScreen head.x head.y ∧ x = head.x ∧ y = head.y) := by
        rintro ⟨_, rfl, rfl⟩
        exact untold head List.mem_cons_self ⟨rfl, rfl⟩
      rw [List.foldl_cons, ih fun cell listed => untold cell (List.mem_cons_of_mem head listed),
        Grid.paint, Grid.get_set, if_neg elsewhere]

theorem get_foldl_paint_dueCells (screen : Screen) (picture : Grid) {x y : Nat}
    (inside : OnScreen x y) :
    (screen.dueCells.foldl Grid.paint picture).get x y =
      if screen.isDue x y then screen.pixels.get x y else picture.get x y := by
  by_cases due : screen.isDue x y = true
  · have truthful : ∀ cell ∈ screen.dueCells, OnScreen cell.x cell.y ∧
        cell.lit = screen.pixels.get cell.x cell.y := by
      intro cell listed
      obtain ⟨onScreen, _, lit⟩ := mem_dueCells.mp listed
      exact ⟨onScreen, lit⟩
    have listed : ⟨x, y, screen.pixels.get x y⟩ ∈ screen.dueCells :=
      mem_dueCells.mpr ⟨inside, due, rfl⟩
    rw [if_pos due]
    exact get_foldl_paint truthful picture (Or.inr ⟨_, listed, rfl, rfl⟩)
  · have untold : ∀ cell ∈ screen.dueCells, ¬(cell.x = x ∧ cell.y = y) := by
      rintro cell listed ⟨rfl, rfl⟩
      exact due (mem_dueCells.mp listed).2.1
    rw [if_neg due]
    exact get_foldl_paint_of_untold untold picture

theorem MirroredBy.pixel_of_undue {screen : Screen} {picture : Grid}
    (mirrored : screen.MirroredBy picture) {x y : Nat} (undue : screen.isDue x y ≠ true) :
    picture.get x y = screen.pixels.get x y :=
  Decidable.of_not_not fun differ => undue (mirrored x y differ)

/-- On a screen that mirrors a blank picture an update reaches any display on which each lit cell is
due, and no other. -/
theorem MirroredBy.foldl_paint_eq_pixels_iff {screen : Screen}
    (fromBlank : screen.MirroredBy Grid.blank) (picture : Grid) :
    screen.dueCells.foldl Grid.paint picture = screen.pixels ↔
      ∀ x y, picture.get x y = true → screen.isDue x y = true := by
  constructor
  · intro reached x y lit
    by_cases due : screen.isDue x y = true
    · exact due
    · exfalso
      have dark := fromBlank.pixel_of_undue due
      by_cases inside : OnScreen x y
      · have painted := screen.get_foldl_paint_dueCells picture inside
        rw [reached, if_neg due, lit, ← dark, Grid.get_blank] at painted
        cases painted
      · rw [Grid.get_of_not_onScreen _ inside] at lit
        cases lit
  · intro litDue
    refine Grid.ext_get ?_
    intro x y inside
    rw [screen.get_foldl_paint_dueCells picture inside]
    by_cases due : screen.isDue x y = true
    · rw [if_pos due]
    · have unlit : picture.get x y = false := Bool.eq_false_iff.mpr fun lit =>
        due (litDue x y lit)
      rw [if_neg due, unlit, ← fromBlank.pixel_of_undue due, Grid.get_blank]

theorem dueCells_blank : blank.dueCells = [] :=
  dueCells_swept blank

end Screen

/-! ### Starting anew -/

namespace Machine

/-- What a reset or an accepted load makes of a machine, on its own or in a session. -/
inductive StartsAnew (machine : Machine) : Machine → Prop where
  | reset : machine.StartsAnew machine.reset
  | load {program : List UInt8} {loaded : Machine}
      (accepted : machine.load program = (.ok (), loaded)) : machine.StartsAnew loaded
  | sessionReset {session : Session} (held : session.machine = machine) :
      machine.StartsAnew session.reset.machine
  | sessionLoad {session next : Session} {program : List UInt8} {thread : SystemAnswer}
      (held : session.machine = machine) (accepted : session.load program thread = (.ok (), next)) :
      machine.StartsAnew next.machine

theorem load_of_session_load {session next : Session} {program : List UInt8}
    {thread : SystemAnswer} (accepted : session.load program thread = (.ok (), next)) :
    session.machine.load program = (.ok (), next.machine) := by
  rcases Nat.lt_or_ge programCapacity program.length with tooLarge | fits
  · rw [Session.load, session.stopTicker.machine.load_of_tooLarge tooLarge] at accepted
    dsimp only at accepted
    split at accepted
    · cases thread <;> cases accepted
    · cases accepted
  · rw [Session.load, session.stopTicker.machine.load_of_fits fits] at accepted
    cases thread with
    | error problem => cases accepted
    | ok granted =>
        rw [← (Prod.mk.inj accepted).2]
        exact session.machine.load_of_fits fits

theorem StartsAnew.screen_eq {machine renewed : Machine} (anew : machine.StartsAnew renewed) :
    renewed.screen = Screen.blank := by
  cases anew with
  | reset => rfl
  | load accepted => exact load_screen accepted
  | sessionReset held => rfl
  | sessionLoad held accepted => exact load_screen (load_of_session_load accepted)

theorem StartsAnew.afterMoves_mirroredBy {machine renewed : Machine}
    (anew : machine.StartsAnew renewed) (moves : List Move) :
    (renewed.afterMoves moves).screen.MirroredBy Grid.blank := by
  refine afterMoves_induction (fun machine => machine.screen.MirroredBy Grid.blank)
    (fun _ move here => afterMove_mirroredBy here move) ?_ moves
  rw [anew.screen_eq]
  exact Screen.mirroredBy_blank

end Machine

namespace Viewing

open PictureDisplay

variable {δ : Type} [PictureDisplay δ]

theorem picture_after_copy (viewing : Viewing δ) {step : ViewingStep}
    (copies : step = .update ∨ step = .present) :
    picture (viewing.after step).display =
      viewing.machine.screen.dueCells.foldl Grid.paint (picture viewing.display) := by
  rcases copies with rfl | rfl
  · exact picture_foldl_paint viewing.display viewing.machine.screen.dueCells
  · change picture (Display.present viewing.display viewing.machine.screen).2 = _
    unfold Display.present
    split
    · rename_i nothing
      rw [List.isEmpty_iff.mp nothing]
      rfl
    · rw [picture_render]
      exact picture_foldl_paint viewing.display viewing.machine.screen.dueCells

theorem pixels_after_copy (viewing : Viewing δ) {step : ViewingStep}
    (copies : step = .update ∨ step = .present) :
    (viewing.after step).machine.screen.pixels = viewing.machine.screen.pixels := by
  rcases copies with rfl | rfl
  · rfl
  · rfl

theorem copy_reaches_iff {viewing : Viewing δ}
    (fromBlank : viewing.machine.screen.MirroredBy Grid.blank) {step : ViewingStep}
    (copies : step = .update ∨ step = .present) :
    picture (viewing.after step).display = (viewing.after step).machine.screen.pixels ↔
      ∀ x y, (picture viewing.display).get x y = true →
        viewing.machine.screen.isDue x y = true := by
  rw [viewing.picture_after_copy copies, viewing.pixels_after_copy copies]
  exact fromBlank.foldl_paint_eq_pixels_iff (picture viewing.display)

theorem copy_of_renewed {viewing : Viewing δ} {renewed : Machine}
    (anew : viewing.machine.StartsAnew renewed) {step : ViewingStep}
    (copies : step = .update ∨ step = .present) :
    let next := (Viewing.mk renewed viewing.display).after step
    next.machine.screen.pixels = Grid.blank ∧ picture next.display = picture viewing.display := by
  intro next
  constructor
  · rw [pixels_after_copy _ copies, anew.screen_eq]
    rfl
  · rw [picture_after_copy _ copies, anew.screen_eq, Screen.dueCells_blank]
    rfl

theorem lit_after_restart {viewing : Viewing δ}
    (inSync : picture viewing.display = viewing.machine.screen.pixels) {x y : Nat}
    (lit : viewing.machine.screen.pixels.get x y = true) {renewed : Machine}
    (anew : viewing.machine.StartsAnew renewed) {step : ViewingStep}
    (copies : step = .update ∨ step = .present) :
    let next := (Viewing.mk renewed viewing.display).after step
    next.machine.screen.pixels.get x y = false ∧ (picture next.display).get x y = true := by
  intro next
  obtain ⟨dark, kept⟩ := copy_of_renewed anew copies
  constructor
  · rw [dark, Grid.get_blank]
  · rw [kept, inSync, lit]

theorem copy_of_cleared {viewing : Viewing δ} {cleared : Machine}
    (executed : viewing.machine.perform (Machine.execute .clear) = (.ok (), cleared))
    {step : ViewingStep} (copies : step = .update ∨ step = .present) :
    let next := (Viewing.mk cleared viewing.display).after step
    next.machine.screen.pixels = Grid.blank ∧
      picture next.display = next.machine.screen.pixels := by
  intro next
  have left : cleared = viewing.machine.update .clear := (congrArg Prod.snd executed).symm
  have mirrored : cleared.screen.MirroredBy (picture viewing.display) := by
    rw [left]
    exact Screen.mirroredBy_setAllDue Screen.blank (picture viewing.display)
  constructor
  · rw [pixels_after_copy _ copies, left]
    rfl
  · rw [picture_after_copy _ copies, mirrored.foldl_paint, pixels_after_copy _ copies]

/-- The first update after a reset or a load copies nothing, so the display keeps the old picture, and
it is right only where that was blank. Once the new program has run, an update reaches the display
exactly if every cell that was lit is due again. The instruction that clears the screen always reaches
it. -/
theorem restart_reaches_display_iff {viewing : Viewing δ}
    (inSync : picture viewing.display = viewing.machine.screen.pixels) {renewed : Machine}
    (anew : viewing.machine.StartsAnew renewed) {step : ViewingStep}
    (copies : step = .update ∨ step = .present) :
    let now := viewing.machine.screen
    let copied := fun machine : Machine => (Viewing.mk machine viewing.display).after step
    let reached := fun machine : Machine =>
      picture (copied machine).display = (copied machine).machine.screen.pixels
    (renewed.screen.dueCells = [] ∧
        (copied renewed).machine.screen.pixels = Grid.blank ∧
        picture (copied renewed).display = now.pixels ∧
        (reached renewed ↔ now.pixels = Grid.blank)) ∧
      (∀ moves : List Move, reached (renewed.afterMoves moves) ↔
        ∀ x y, now.pixels.get x y = true →
          (renewed.afterMoves moves).screen.isDue x y = true) ∧
      ∀ cleared : Machine, viewing.machine.perform (Machine.execute .clear) = (.ok (), cleared) →
        (copied cleared).machine.screen.pixels = Grid.blank ∧ reached cleared := by
  intro now copied reached
  obtain ⟨dark, kept⟩ := copy_of_renewed anew copies
  rw [inSync] at kept
  refine ⟨⟨?_, dark, kept, ?_⟩, ?_, ?_⟩
  · rw [anew.screen_eq]
    exact Screen.dueCells_blank
  · change picture (copied renewed).display = (copied renewed).machine.screen.pixels ↔ _
    rw [kept, dark]
  · intro moves
    change _ ↔ ∀ x y, viewing.machine.screen.pixels.get x y = true → _
    rw [← inSync]
    exact copy_reaches_iff (anew.afterMoves_mirroredBy moves) copies
  · intro cleared executed
    exact copy_of_cleared executed copies

theorem inSync_after_copy {seed : UInt64} {program : List UInt8} {loaded : Machine}
    (accepted : (Machine.powerOn seed).load program = (.ok (), loaded)) {display : δ}
    (new : picture display = Grid.blank) (steps : List ViewingStep) {last : ViewingStep}
    (copies : last = .update ∨ last = .present) :
    let now := ((Viewing.mk loaded display).afterAll steps).after last
    picture now.display = now.machine.screen.pixels := by
  intro now
  let start : Viewing δ := ⟨loaded, display⟩
  have blank : start.machine.screen.MirroredBy (picture start.display) := by
    change loaded.screen.MirroredBy (picture display)
    rw [Machine.load_screen accepted, new]
    exact Screen.mirroredBy_blank
  obtain ⟨painted, sweeps⟩ := after_copy (afterAll_mirroredBy blank steps) copies
  rw [painted, sweeps]
  rfl

theorem digit_kept_across_reset :
    ∃ loaded terminal, (Machine.powerOn 0).load [0xd0, 0x05, 0x12, 0x00] = (.ok (), loaded) ∧
      Terminal.start .standard 66 34 = .ok terminal ∧
      let now := ((Viewing.mk loaded terminal).afterAll [.move .tick]).after .update
      let next := (Viewing.mk now.machine.reset now.display).after .update
      picture now.display = now.machine.screen.pixels ∧
        picture next.display = now.machine.screen.pixels ∧
        (picture next.display = next.machine.screen.pixels ↔
          now.machine.screen.pixels = Grid.blank) := by
  have accepted : (Machine.powerOn 0).load [0xd0, 0x05, 0x12, 0x00] = (.ok (), _) := rfl
  refine ⟨_, _, accepted, rfl, ?_⟩
  intro now next
  have inSync : picture now.display = now.machine.screen.pixels :=
    inSync_after_copy accepted rfl [.move .tick] (Or.inl rfl)
  obtain ⟨⟨_, _, kept, right⟩, _⟩ := restart_reaches_display_iff inSync .reset (Or.inl rfl)
  exact ⟨inSync, kept, right⟩

/-- A digit is drawn and shown. After a reset, and after the same program is loaded again, its first
pixel is off and the display still has it. -/
theorem digit_outlives_restart :
    ∃ loaded terminal, (Machine.powerOn 0).load [0xd0, 0x05, 0x12, 0x00] = (.ok (), loaded) ∧
      Terminal.start .standard 66 34 = .ok terminal ∧
      let now := ((Viewing.mk loaded terminal).afterAll [.move .tick]).after .update
      picture now.display = now.machine.screen.pixels ∧
        (let next := (Viewing.mk now.machine.reset now.display).after .update
        next.machine.screen.pixels.get 0 0 = false ∧ (picture next.display).get 0 0 = true) ∧
        ∃ reloaded, now.machine.load [0xd0, 0x05, 0x12, 0x00] = (.ok (), reloaded) ∧
          let next := (Viewing.mk reloaded now.display).after .update
          next.machine.screen.pixels.get 0 0 = false ∧ (picture next.display).get 0 0 = true := by
  have accepted : (Machine.powerOn 0).load [0xd0, 0x05, 0x12, 0x00] = (.ok (), _) := rfl
  refine ⟨_, _, accepted, rfl, ?_⟩
  intro now
  have lit : now.machine.screen.pixels.get 0 0 = true := by decide +kernel
  have inSync : picture now.display = now.machine.screen.pixels :=
    inSync_after_copy accepted rfl [.move .tick] (Or.inl rfl)
  have fits : [(0xd0 : UInt8), 0x05, 0x12, 0x00].length ≤ programCapacity := by decide
  have again := now.machine.load_of_fits fits
  exact ⟨inSync, lit_after_restart inSync lit .reset (Or.inl rfl), _, again,
    lit_after_restart inSync lit (.load again) (Or.inl rfl)⟩

end Viewing

end Chip8
