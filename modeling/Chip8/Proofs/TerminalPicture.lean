import Chip8.Proofs.DisplayMirror
import Chip8.Proofs.StandardToolkit
/-!
A terminal that is drawn once and then sees frames only shows its picture after each of them, although a
frame with nothing to copy is not drawn, as long as no attempt to draw fails. This rests on what a
toolkit documents, and on nothing else of it.
-/

namespace Chip8

/-! ### Drawing -/

namespace Toolkit

variable {toolkit : Toolkit}

theorem Documented.singleWidth_printable (documented : toolkit.Documented) {text : String}
    (printable : ∀ character ∈ text.toList, 32 ≤ character.toNat ∧ character.toNat < 127) :
    toolkit.SingleWidth text := by
  intro symbol listed
  rw [documented.symbols_plain text printable] at listed
  obtain ⟨character, _, rfl⟩ := List.mem_map.mp listed
  rfl

end Toolkit

namespace Terminal

variable {toolkit : Toolkit} {columns rows : Nat} {terminal : Terminal toolkit columns rows}

/-- What the terminal is to show: its picture under its title, drawn on nothing else. -/
def drawing (terminal : Terminal toolkit columns rows) : Buffer columns rows :=
  terminal.drawOn (Toolkit.full columns rows) .blank

theorem canvas_regular (terminal : Terminal toolkit columns rows) : terminal.canvas.Regular where
  xBounds_lt := show (0 : Int) < 63 by decide
  yBounds_lt := show (-31 : Int) < 0 by decide
  natAbs_lt := show ∀ bound ∈ [(0 : Int), 63, -31, 0], bound.natAbs < 65536 by decide

/-- The canvas stands at the upper left and is cut off where the terminal ends. -/
theorem intersection_area (documented : toolkit.Documented) (columns rows : Nat) :
    toolkit.intersection Resolution.screen.area (Toolkit.full columns rows) =
      ⟨0, 0, min 66 columns, min 34 rows⟩ := by
  have area : Resolution.screen.area = ⟨0, 0, 66, 34⟩ := rfl
  rw [area, Toolkit.full, documented.intersection_touching _ _ (Nat.zero_le _) (Nat.zero_le _)]
  simp only [Nat.max_self, Nat.zero_add, Nat.sub_zero]

theorem allNarrow_drawing (documented : toolkit.Documented)
    (single : toolkit.SingleWidth terminal.title) : terminal.drawing.AllNarrow := by
  rw [drawing, drawOn, intersection_area documented]
  refine documented.canvas_narrow _ _ _ terminal.canvas_regular ?_ ?_ single Buffer.allNarrow_blank
  · rw [Nat.zero_add]
    exact Nat.min_le_right 66 columns
  · rw [Nat.zero_add]
    exact Nat.min_le_right 34 rows

/-- The terminal has the title, and its picture stands on it. -/
structure Shows (terminal : Terminal toolkit columns rows) (title : String) : Prop where
  title_eq : terminal.title = title
  drawn : toolkit.Drawn terminal.state
  shown_eq : terminal.shown = terminal.drawing.lines

theorem shows_render (documented : toolkit.Documented) (before : toolkit.Drawn terminal.state)
    (single : toolkit.SingleWidth terminal.title) (answered : (Display.render terminal).1 = .ok ()) :
    (Display.render terminal).2.Shows terminal.title := by
  have drew : toolkit.draw terminal.state terminal.drawOn =
      (.ok (), (Display.render terminal).2.state) := Prod.ext answered rfl
  exact ⟨rfl, .draw before drew,
    documented.draw_shows before drew (allNarrow_drawing documented single)⟩

theorem drawing_congr {first second : Terminal toolkit columns rows}
    (title : first.title = second.title) (picture : first.picture = second.picture) :
    first.drawing = second.drawing := by
  rw [drawing, drawing, drawOn, drawOn, canvas, canvas, title, picture]

theorem eq_of_start (begun : start toolkit columns rows = .ok terminal) :
    terminal.title = "CHIP-8" ∧ terminal.picture = Grid.blank ∧ toolkit.Drawn terminal.state := by
  unfold start at begun
  cases started : toolkit.start columns rows with
  | error problem =>
      rw [started] at begun
      cases begun
  | ok state =>
      rw [started] at begun
      cases begun
      exact ⟨rfl, rfl, .start started⟩

theorem foldl_paint_eq (cells : List Cell) :
    cells.foldl Display.paint terminal =
      { terminal with picture := cells.foldl Grid.paint terminal.picture } := by
  induction cells generalizing terminal with
  | nil => rfl
  | cons cell rest ih => exact ih

theorem Shows.render (documented : toolkit.Documented) {title : String}
    (shows : terminal.Shows title) (single : toolkit.SingleWidth title)
    (answered : (Display.render terminal).1 = .ok ()) :
    (Display.render terminal).2.Shows title := by
  obtain ⟨rfl, drawn, _⟩ := shows
  exact shows_render documented drawn single answered

theorem Shows.present (documented : toolkit.Documented) {title : String}
    (shows : terminal.Shows title) (single : toolkit.SingleWidth title) {screen : Screen}
    (answered : (Display.present terminal screen).1 = .ok ()) :
    (Display.present terminal screen).2.Shows title := by
  obtain ⟨rfl, drawn, _⟩ := id shows
  unfold Display.present at answered ⊢
  split
  · exact shows
  · rename_i due
    rw [if_neg due, Display.update, foldl_paint_eq] at answered
    rw [Display.update, foldl_paint_eq]
    exact shows_render documented drawn single answered

end Terminal

/-! ### A terminal that sees frames only -/

namespace Viewing

open PictureDisplay

variable {toolkit : Toolkit} {columns rows : Nat}

theorem shows_afterAll (documented : toolkit.Documented) {title : String}
    (single : toolkit.SingleWidth title) {viewing : Viewing (Terminal toolkit columns rows)}
    (shows : viewing.display.Shows title) {steps : List ViewingStep}
    (shownOnly : ∀ step ∈ steps, step ≠ .update) (answered : viewing.Answered steps) :
    (viewing.afterAll steps).display.Shows title := by
  induction steps generalizing viewing with
  | nil => exact shows
  | cons step rest ih =>
      obtain ⟨here, behind⟩ := answered
      have allowed := shownOnly step List.mem_cons_self
      have later := fun other listed => shownOnly other (List.mem_cons_of_mem step listed)
      refine ih ?_ later behind
      cases step with
      | move move => exact shows
      | update => exact absurd rfl allowed
      | render => exact shows.render documented single here
      | present => exact shows.present documented single here

theorem picture_afterAll_present {δ : Type} [PictureDisplay δ] {viewing : Viewing δ}
    (mirrored : viewing.machine.screen.MirroredBy (picture viewing.display))
    (steps : List ViewingStep) :
    picture (viewing.afterAll (steps ++ [.present])).display =
      (viewing.afterAll (steps ++ [.present])).machine.screen.pixels := by
  obtain ⟨painted, sweeps⟩ :=
    after_copy (afterAll_mirroredBy mirrored steps) (Or.inr (rfl : ViewingStep.present = .present))
  have split : viewing.afterAll (steps ++ [.present]) =
      (viewing.afterAll steps).after .present := by
    unfold afterAll
    rw [List.foldl_append]
    rfl
  rw [split, painted, sweeps]
  rfl

theorem answered_standard (viewing : Viewing (Terminal .standard columns rows))
    (steps : List ViewingStep) : viewing.Answered steps := by
  induction steps generalizing viewing with
  | nil => trivial
  | cons step rest ih =>
      refine ⟨?_, ih _⟩
      cases step with
      | move | update | render => rfl
      | present =>
          change (Display.present viewing.display viewing.machine.screen).1 = .ok ()
          unfold Display.present
          split <;> rfl

/-- A display of a machine that has just been loaded follows its screen: what differs is due, and
after an update nothing differs and nothing is due. A terminal that is drawn once and then sees
frames only shows after each frame what it would show if its picture were drawn afresh, provided that no
attempt to draw fails. -/
theorem display_follows_screen {seed : UInt64} {program : List UInt8} {loaded : Machine}
    (accepted : (Machine.powerOn seed).load program = (.ok (), loaded)) :
    (∀ (δ : Type) [PictureDisplay δ] (display : δ) (steps : List ViewingStep),
      picture display = Grid.blank →
        let now := (Viewing.mk loaded display).afterAll steps
        (∀ x y, (picture now.display).get x y ≠ now.machine.screen.pixels.get x y →
          now.machine.screen.marked.get x y = true ∨ now.machine.screen.allDue = true) ∧
        (now.machine.screen.dueCells = [] →
          picture now.display = now.machine.screen.pixels) ∧
        ∀ step, step = .update ∨ step = .present →
          let next := now.after step
          picture next.display = next.machine.screen.pixels ∧
            next.machine.screen.pixels = now.machine.screen.pixels ∧
            (∀ x y, next.machine.screen.marked.get x y = false) ∧
            next.machine.screen.allDue = false ∧
            next.machine.screen.dueCells = []) ∧
      ∀ (toolkit : Toolkit), toolkit.Documented → ∀ (columns rows : Nat)
        (terminal : Terminal toolkit columns rows),
        Terminal.start toolkit columns rows = .ok terminal →
          ∀ (moves : List Move) (steps : List ViewingStep), (∀ step ∈ steps, step ≠ .update) →
            let drawn := Display.render terminal
            let viewing := Viewing.mk (loaded.afterMoves moves) drawn.2
            drawn.1 = .ok () → viewing.Answered (steps ++ [.present]) →
              let now := viewing.afterAll (steps ++ [.present])
              let current := { terminal with picture := now.machine.screen.pixels }
              now.display.shown = current.drawing.lines ∧
                ∀ afresh, Display.render current = (.ok (), afresh) →
                  now.display.shown = afresh.shown := by
  have blank : loaded.screen.MirroredBy Grid.blank := by
    rw [Machine.load_screen accepted]
    exact Screen.mirroredBy_blank
  refine ⟨?_, ?_⟩
  · intro δ _ display steps new now
    have mirrored : now.machine.screen.MirroredBy (picture now.display) := by
      refine afterAll_mirroredBy ?_ steps
      change loaded.screen.MirroredBy (picture display)
      rw [new]
      exact blank
    refine ⟨?_, picture_eq_of_dueCells_nil mirrored, ?_⟩
    · intro x y differ
      have due := mirrored x y differ
      rw [Screen.isDue, Bool.or_eq_true] at due
      exact due.symm
    · intro step copies next
      obtain ⟨painted, sweeps⟩ := after_copy mirrored copies
      rw [painted, sweeps]
      exact ⟨rfl, rfl, Grid.get_blank, rfl, now.machine.screen.dueCells_swept⟩
  · intro toolkit documented columns rows terminal begun moves steps shownOnly drawn viewing
      rendered answered now current
    have single : toolkit.SingleWidth "CHIP-8" := documented.singleWidth_printable (by simp)
    obtain ⟨title, picture_eq, started⟩ := Terminal.eq_of_start begun
    rw [← title] at single
    have shownOnlyAll : ∀ step ∈ steps ++ [.present], step ≠ .update := by
      intro step listed
      rcases List.mem_append.mp listed with among | last
      · exact shownOnly step among
      · rw [List.mem_singleton.mp last]
        decide
    have mirrored : viewing.machine.screen.MirroredBy (picture viewing.display) := by
      change (loaded.afterMoves moves).screen.MirroredBy terminal.picture
      rw [picture_eq]
      exact Machine.afterMoves_induction (fun machine => machine.screen.MirroredBy Grid.blank)
        (fun _ move here => Machine.afterMove_mirroredBy here move) blank moves
    have first : viewing.display.Shows terminal.title :=
      Terminal.shows_render documented started single rendered
    have shows : now.display.Shows terminal.title :=
      shows_afterAll documented single first shownOnlyAll answered
    have pictured : now.display.picture = now.machine.screen.pixels :=
      picture_afterAll_present mirrored steps
    have same : now.display.drawing = current.drawing :=
      Terminal.drawing_congr shows.title_eq pictured
    refine ⟨shows.shown_eq.trans (congrArg Buffer.lines same), ?_⟩
    intro afresh redrawn
    have answeredAfresh : (Display.render current).1 = .ok () := congrArg Prod.fst redrawn
    have showsAfresh : (Display.render current).2.Shows terminal.title :=
      Terminal.shows_render documented started single answeredAfresh
    rw [redrawn] at showsAfresh
    have sameAfresh : afresh.drawing = current.drawing := by
      obtain rfl : (Display.render current).2 = afresh := congrArg Prod.snd redrawn
      rfl
    rw [shows.shown_eq, same, showsAfresh.shown_eq, sameAfresh]

/-- A program that draws a digit and wipes it out again, on both displays. -/
theorem blinking_digit_followed :
    ∃ loaded terminal, (Machine.powerOn 0).load [0xd0, 0x05, 0x12, 0x00] = (.ok (), loaded) ∧
      Terminal.start .standard 66 34 = .ok terminal ∧
      let recorded := ((Viewing.mk loaded PaintRecord.empty).afterAll
        [.move .tick, .present, .move .cycle]).after .update
      let drawn := Display.render terminal
      let viewing := Viewing.mk (loaded.afterMoves [.tick]) drawn.2
      let steps : List ViewingStep := [.present, .move .tick, .move .tick] ++ [.present]
      let now := viewing.afterAll steps
      recorded.display.replay = recorded.machine.screen.pixels ∧
        Toolkit.standard.Documented ∧ drawn.1 = .ok () ∧ viewing.Answered steps ∧
        now.display.shown =
          { terminal with picture := now.machine.screen.pixels }.drawing.lines := by
  have accepted : (Machine.powerOn 0).load [0xd0, 0x05, 0x12, 0x00] = (.ok (), _) := rfl
  have begun : Terminal.start .standard 66 34 = .ok _ := rfl
  obtain ⟨follows, shows⟩ := display_follows_screen accepted
  have updated := (follows PaintRecord PaintRecord.empty
    [.move .tick, .present, .move .cycle] rfl).2.2 .update (Or.inl rfl)
  have standard := shows .standard Toolkit.standard_documented 66 34 _ begun [.tick]
    [.present, .move .tick, .move .tick] (by decide) rfl (answered_standard _ _)
  exact ⟨_, _, accepted, begun, updated.1, Toolkit.standard_documented, rfl,
    answered_standard _ _, standard.1⟩

end Viewing

end Chip8
