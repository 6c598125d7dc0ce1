import Chip8.Proofs.FaultAtomicity
/-!
Everything that can happen to a machine, as values. A move keeps the program: time passes,
instructions run, and the host works the keys. An operation may also load, reset, execute an
instruction from outside, or work the screen. Histories are lists of these.
-/

namespace Chip8

inductive KeyOperation where
  | press (key : Nat)
  | release (key : Nat)
  | releaseAll
  deriving DecidableEq, Repr

def Keypad.after (keypad : Keypad) : KeyOperation → Keypad
  | .press key => (keypad.press key).2
  | .release key => (keypad.release key).2
  | .releaseAll => Keypad.released

inductive ScreenOperation where
  | toggle (x y : Nat)
  | mark (x y : Nat)
  | unmark (x y : Nat)
  | setAllDue (due : Bool)
  | clear
  | sweep
  deriving DecidableEq, Repr

def Screen.after (screen : Screen) : ScreenOperation → Screen
  | .toggle x y => screen.toggle x y
  | .mark x y => screen.mark x y
  | .unmark x y => screen.unmark x y
  | .setAllDue due => screen.setAllDue due
  | .clear => Screen.blank
  | .sweep => screen.swept

/-- What can happen to a machine while it keeps its program. -/
inductive Move where
  | countDown
  | step
  | cycle
  | tick
  | key (operation : KeyOperation)
  deriving DecidableEq, Repr

inductive Operation where
  | move (move : Move)
  | load (program : List UInt8)
  | loadFrom (source : ByteSource)
  | reset
  | execute (instruction : Instruction)
  | screen (operation : ScreenOperation)

/-- An instruction from outside is one that some word means. -/
def Operation.Decoded : Operation → Prop
  | .execute instruction => ∃ opcode, instruction = Instruction.decode opcode
  | _ => True

namespace Machine

def afterKey (machine : Machine) (operation : KeyOperation) : Machine :=
  { machine with keypad := machine.keypad.after operation }

def afterMove (machine : Machine) : Move → Machine
  | .countDown => machine.countDown.1
  | .step => (machine.perform step).2
  | .cycle => machine.cycle.1
  | .tick => machine.tick.1
  | .key operation => machine.afterKey operation

def afterMoves (machine : Machine) (moves : List Move) : Machine :=
  moves.foldl afterMove machine

def afterOperation (machine : Machine) : Operation → Machine
  | .move move => machine.afterMove move
  | .load program => (machine.load program).2
  | .loadFrom source => (machine.loadFrom source).2
  | .reset => machine.reset
  | .execute instruction => (machine.perform (execute instruction)).2
  | .screen operation => { machine with screen := machine.screen.after operation }

def afterOperations (machine : Machine) (operations : List Operation) : Machine :=
  operations.foldl afterOperation machine

/-! ### Histories -/

/-- A load keeps what starting a program keeps; a load that is refused does not even do that. -/
theorem load_induction (kept : Machine → Prop) {machine : Machine} (initial : kept machine)
    (started : ∀ memory, kept { machine.reset with memory := memory }) (program : List UInt8) :
    kept (machine.load program).2 := by
  rcases Nat.lt_or_ge programCapacity program.length with tooLarge | fits
  · rw [machine.load_of_tooLarge tooLarge]
    exact initial
  · rw [machine.load_of_fits fits]
    exact started _

theorem loadFrom_induction (kept : Machine → Prop) {machine : Machine} (initial : kept machine)
    (started : ∀ memory, kept { machine.reset with memory := memory }) (source : ByteSource) :
    kept (machine.loadFrom source).2 := by
  cases read : source.readToEnd with
  | error reason =>
      rw [machine.loadFrom_of_error read]
      exact initial
  | ok program =>
      rw [machine.loadFrom_of_ok read]
      exact load_induction kept initial started program

theorem afterMove_induction (kept : Machine → Prop)
    (counted : ∀ machine, kept machine → kept machine.countDown.1)
    (stepped : ∀ machine, kept machine → kept machine.stepped)
    (keyed : ∀ machine operation, kept machine → kept (machine.afterKey operation))
    {machine : Machine} (initial : kept machine) (move : Move) :
    kept (machine.afterMove move) := by
  cases move with
  | countDown => exact counted machine initial
  | step =>
      have led : (machine.perform step).2 = machine.stepped := machine.cycle_fst
      rw [afterMove, led]
      exact stepped machine initial
  | cycle =>
      rw [afterMove, cycle_fst]
      exact stepped machine initial
  | tick =>
      rw [afterMove, tick_fst]
      exact stepped _ (counted machine initial)
  | key operation => exact keyed machine operation initial

theorem afterMoves_induction (kept : Machine → Prop)
    (move_keeps : ∀ machine move, kept machine → kept (machine.afterMove move))
    {machine : Machine} (initial : kept machine) (moves : List Move) :
    kept (machine.afterMoves moves) :=
  List.foldlRecOn moves afterMove initial fun before here move _ => move_keeps before move here

theorem afterOperations_induction (kept : Machine → Prop) {allowed : Operation → Prop}
    (operation_keeps : ∀ machine operation, allowed operation → kept machine →
      kept (machine.afterOperation operation))
    {machine : Machine} (initial : kept machine) (operations : List Operation)
    (all : ∀ operation ∈ operations, allowed operation) :
    kept (machine.afterOperations operations) :=
  List.foldlRecOn operations afterOperation initial fun before here operation member =>
    operation_keeps before operation (all operation member) here

end Machine

end Chip8
