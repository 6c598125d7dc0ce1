import Chip8.Proofs.DisplayMirror
import Chip8.Proofs.FreshStart
/-!
Nobody but a display can tell which cells are due. The notes for the display are written by programs and
from outside, and read by sweeps alone, so a machine that is swept or whose notes are worked on at any
times goes on like one that is not looked at.
-/

namespace Chip8

/-! ### The screen without its notes -/

namespace Screen

def withNotes (screen : Screen) (marked : Grid) (allDue : Bool) : Screen :=
  { screen with
    marked := marked
    allDue := allDue }

/-- A draw sees the pixels only, and its notes are all that depends on the notes before. -/
theorem flip_withNotes (screen : Screen) (marked : Grid) (allDue : Bool)
    (cells : List (Nat × Nat)) :
    ((screen.withNotes marked allDue).flip cells).1.swept = (screen.flip cells).1.swept ∧
      ((screen.withNotes marked allDue).flip cells).2 = (screen.flip cells).2 := by
  induction cells generalizing screen marked with
  | nil => exact ⟨rfl, rfl⟩
  | cons cell rest ih =>
      obtain ⟨x, y⟩ := cell
      obtain ⟨pixels, hit⟩ := ih ((screen.toggle x y).mark x y) (marked.set x y true)
      exact ⟨pixels, congrArg (screen.pixels.get x y || ·) hit⟩

end Screen

namespace Machine

def withNotes (machine : Machine) (marked : Grid) (allDue : Bool) : Machine :=
  { machine with screen := machine.screen.withNotes marked allDue }

/-- Two machines that agree here agree in everything but the notes for the display. -/
def noteless (machine : Machine) : Machine :=
  { machine with screen := machine.screen.swept }

theorem eq_withNotes {first second : Machine} (same : first.noteless = second.noteless) :
    second = first.withNotes second.screen.marked second.screen.allDue := by
  have restored := congrArg
    (fun machine => machine.withNotes second.screen.marked second.screen.allDue) same
  exact restored.symm

/-! ### One step -/

variable (machine : Machine) (marked : Grid) (allDue : Bool)

theorem fault?_withNotes (instruction : Instruction) :
    (machine.withNotes marked allDue).fault? instruction = machine.fault? instruction := by
  cases instruction <;> rfl

theorem residue_withNotes (instruction : Instruction) :
    (machine.withNotes marked allDue).residue instruction =
      (machine.residue instruction).withNotes marked allDue := by
  cases instruction with
  | random x mask | loadRange x =>
      rw [residue, residue, apply_ite (withNotes · marked allDue)]
      rfl
  | _ => rfl

theorem drawn_withNotes (x y : Nat) (rows : UInt8) :
    ((machine.withNotes marked allDue).drawn x y rows).1.swept = (machine.drawn x y rows).1.swept ∧
      ((machine.withNotes marked allDue).drawn x y rows).2 = (machine.drawn x y rows).2 :=
  machine.screen.flip_withNotes marked allDue _

theorem registersAfter_withNotes (instruction : Instruction) :
    (machine.withNotes marked allDue).registersAfter instruction =
      machine.registersAfter instruction := by
  cases instruction with
  | draw x y rows =>
      have hit := (machine.drawn_withNotes marked allDue x y rows).2
      rw [registersAfter, hit]
      rfl
  | _ => rfl

theorem screenAfter_withNotes (instruction : Instruction) :
    ((machine.withNotes marked allDue).screenAfter instruction).swept =
      (machine.screenAfter instruction).swept := by
  cases instruction with
  | draw x y rows => exact (machine.drawn_withNotes marked allDue x y rows).1
  | awaitKey x =>
      rw [screenAfter, screenAfter, apply_ite Screen.swept, apply_ite Screen.swept]
      rfl
  | _ => rfl

theorem update_withNotes (instruction : Instruction) :
    ((machine.withNotes marked allDue).update instruction).noteless =
      (machine.update instruction).noteless := by
  have registers := machine.registersAfter_withNotes marked allDue instruction
  have memory : (machine.withNotes marked allDue).memoryAfter instruction =
      machine.memoryAfter instruction := by
    cases instruction <;> rfl
  have screen := machine.screenAfter_withNotes marked allDue instruction
  have random : (machine.withNotes marked allDue).randomAfter instruction =
      machine.randomAfter instruction := by
    cases instruction <;> rfl
  unfold noteless update
  dsimp only
  congr 1

theorem perform_execute_withNotes (instruction : Instruction) :
    ((machine.withNotes marked allDue).perform (execute instruction)).1 =
        (machine.perform (execute instruction)).1 ∧
      ((machine.withNotes marked allDue).perform (execute instruction)).2.noteless =
        (machine.perform (execute instruction)).2.noteless := by
  rw [perform_execute, perform_execute, fault?_withNotes]
  cases machine.fault? instruction with
  | none => exact ⟨rfl, machine.update_withNotes marked allDue instruction⟩
  | some fault =>
      dsimp only
      rw [residue_withNotes]
      exact ⟨rfl, rfl⟩

theorem perform_step_withNotes :
    ((machine.withNotes marked allDue).perform step).1 = (machine.perform step).1 ∧
      ((machine.withNotes marked allDue).perform step).2.noteless =
        (machine.perform step).2.noteless := by
  have checks : (machine.withNotes marked allDue).stepFault? = machine.stepFault? := by
    unfold stepFault?
    rw [fault?_withNotes]
    rfl
  rw [perform_step, perform_step, checks]
  cases machine.stepFault? with
  | none => exact ⟨rfl, machine.update_withNotes marked allDue machine.current⟩
  | some fault => exact ⟨rfl, rfl⟩

theorem cycle_withNotes :
    (machine.withNotes marked allDue).cycle.1.noteless = machine.cycle.1.noteless ∧
      (machine.withNotes marked allDue).cycle.2 = machine.cycle.2 := by
  have behind := (machine.perform_step_withNotes marked allDue).2
  have sound : ((machine.withNotes marked allDue).perform step).2.registers.sound =
      (machine.perform step).2.registers.sound := congrArg (·.registers.sound) behind
  refine ⟨behind, ?_⟩
  unfold cycle
  dsimp only
  rw [sound]
  rfl

theorem tick_withNotes :
    (machine.withNotes marked allDue).tick.1.noteless = machine.tick.1.noteless ∧
      (machine.withNotes marked allDue).tick.2 = machine.tick.2 := by
  obtain ⟨behind, signal⟩ := machine.countDown.1.cycle_withNotes marked allDue
  exact ⟨behind, congrArg (·.or (machine.countDownTimes 1).2) signal⟩

end Machine

/-! ### One operation -/

/-- The operation works on nothing but the notes for the display. -/
def Operation.onlyNotes : Operation → Bool
  | .screen (.mark _ _) | .screen (.unmark _ _) | .screen (.setAllDue _) | .screen .sweep => true
  | _ => false

def Operation.withoutNotes (history : List Operation) : List Operation :=
  history.filter fun operation => !operation.onlyNotes

theorem Operation.withoutNotes_cons (operation : Operation) (rest : List Operation) :
    withoutNotes (operation :: rest) =
      if operation.onlyNotes then withoutNotes rest else operation :: withoutNotes rest := by
  rw [withoutNotes, List.filter_cons]
  cases operation.onlyNotes <;> rfl

@[ext]
structure Report where
  answer : Answer
  behind : Machine

namespace Machine

theorem noteless_afterOperation_of_onlyNotes (machine : Machine) {operation : Operation}
    (notes : operation.onlyNotes = true) :
    (machine.afterOperation operation).noteless = machine.noteless := by
  cases operation with
  | screen change =>
      cases change with
      | mark x y | unmark x y | setAllDue due | sweep => rfl
      | toggle x y | clear => cases notes
  | move move | load program | loadFrom source | reset | execute instruction => cases notes

def report (machine : Machine) (operation : Operation) : Report :=
  { answer := machine.answer operation
    behind := (machine.afterOperation operation).noteless }

theorem report_move_withNotes (machine : Machine) (marked : Grid) (allDue : Bool) (move : Move) :
    (machine.withNotes marked allDue).report (.move move) = machine.report (.move move) := by
  cases move with
  | countDown | key operation => rfl
  | step =>
      obtain ⟨outcome, behind⟩ := machine.perform_step_withNotes marked allDue
      exact Report.ext (congrArg Answer.instruction outcome) behind
  | cycle =>
      obtain ⟨behind, signal⟩ := machine.cycle_withNotes marked allDue
      exact Report.ext (congrArg Answer.signal signal) behind
  | tick =>
      obtain ⟨behind, signal⟩ := machine.tick_withNotes marked allDue
      exact Report.ext (congrArg Answer.signal signal) behind

theorem load_withNotes (machine : Machine) (marked : Grid) (allDue : Bool)
    (program : List UInt8) :
    ((machine.withNotes marked allDue).load program).1 = (machine.load program).1 ∧
      ((machine.withNotes marked allDue).load program).2.noteless =
        (machine.load program).2.noteless := by
  rcases Nat.lt_or_ge programCapacity program.length with tooLarge | fits
  · rw [load_of_tooLarge _ tooLarge, load_of_tooLarge _ tooLarge]
    exact ⟨rfl, rfl⟩
  · rw [load_of_fits _ fits, load_of_fits _ fits]
    exact ⟨rfl, rfl⟩

theorem loadFrom_withNotes (machine : Machine) (marked : Grid) (allDue : Bool)
    (source : ByteSource) :
    ((machine.withNotes marked allDue).loadFrom source).1 = (machine.loadFrom source).1 ∧
      ((machine.withNotes marked allDue).loadFrom source).2.noteless =
        (machine.loadFrom source).2.noteless := by
  cases read : source.readToEnd with
  | error reason =>
      rw [loadFrom_of_error _ read, loadFrom_of_error _ read]
      exact ⟨rfl, rfl⟩
  | ok program =>
      rw [loadFrom_of_ok _ read, loadFrom_of_ok _ read]
      exact machine.load_withNotes marked allDue program

theorem report_eq {first second : Machine} (same : first.noteless = second.noteless)
    {operation : Operation} (seen : ¬operation.onlyNotes = true) :
    first.report operation = second.report operation := by
  rw [eq_withNotes same]
  symm
  cases operation with
  | move move => exact first.report_move_withNotes _ _ move
  | load program =>
      obtain ⟨outcome, behind⟩ := first.load_withNotes second.screen.marked
        second.screen.allDue program
      exact Report.ext (congrArg Answer.load outcome) behind
  | loadFrom source =>
      obtain ⟨outcome, behind⟩ := first.loadFrom_withNotes second.screen.marked
        second.screen.allDue source
      exact Report.ext (congrArg Answer.load outcome) behind
  | reset => rfl
  | execute instruction =>
      obtain ⟨outcome, behind⟩ := first.perform_execute_withNotes second.screen.marked
        second.screen.allDue instruction
      exact Report.ext (congrArg Answer.execution outcome) behind
  | screen change =>
      cases change with
      | toggle x y | clear => rfl
      | mark x y | unmark x y | setAllDue due | sweep => exact absurd rfl seen

/-! ### Histories -/

def reports (machine : Machine) : List Operation → List Report
  | [] => []
  | operation :: rest =>
      let later := (machine.afterOperation operation).reports rest
      if operation.onlyNotes then later else machine.report operation :: later

theorem reports_withoutNotes {first second : Machine} (same : first.noteless = second.noteless)
    (history : List Operation) :
    first.reports history = second.reports (Operation.withoutNotes history) ∧
      (first.afterOperations history).noteless =
        (second.afterOperations (Operation.withoutNotes history)).noteless := by
  induction history generalizing first second with
  | nil => exact ⟨rfl, same⟩
  | cons operation rest ih =>
      rw [Operation.withoutNotes_cons, reports]
      by_cases notes : operation.onlyNotes = true
      · rw [if_pos notes, if_pos notes]
        exact ih ((first.noteless_afterOperation_of_onlyNotes notes).trans same)
      · have told := report_eq same notes
        obtain ⟨later, final⟩ := ih (congrArg Report.behind told)
        rw [if_neg notes, if_neg notes, reports, if_neg notes, told]
        exact ⟨congrArg (second.report operation :: ·) later, final⟩

end Machine

def ViewingStep.operations : ViewingStep → List Operation
  | .move made => [.move made]
  | .update | .present => [.screen .sweep]
  | .render => []

namespace Machine

theorem afterAll_machine {δ : Type} [Display δ] (viewing : Viewing δ) (steps : List ViewingStep) :
    (viewing.afterAll steps).machine =
      viewing.machine.afterOperations (steps.flatMap ViewingStep.operations) := by
  induction steps generalizing viewing with
  | nil => rfl
  | cons step rest ih =>
      refine (ih (viewing.after step)).trans ?_
      cases step <;> rfl

/-- Whatever happens to a machine, sweeps and other work on the notes change nothing for it, wherever they
come in between: every other operation answers as it would without them and leaves the same machine, notes
apart, and so does the whole history. All that a display does to a machine is to sweep its screen. -/
theorem rendering_unseen (machine : Machine) (history : List Operation) :
    let unwatched := Operation.withoutNotes history
    machine.reports history = machine.reports unwatched ∧
      (machine.afterOperations history).noteless =
        (machine.afterOperations unwatched).noteless ∧
      ∀ {δ : Type} [Display δ] (display : δ) (steps : List ViewingStep),
        ((⟨machine, display⟩ : Viewing δ).afterAll steps).machine =
          machine.afterOperations (steps.flatMap ViewingStep.operations) := by
  intro unwatched
  obtain ⟨told, final⟩ := reports_withoutNotes (rfl : machine.noteless = machine.noteless) history
  exact ⟨told, final, fun display steps => afterAll_machine ⟨machine, display⟩ steps⟩

end Machine

end Chip8
