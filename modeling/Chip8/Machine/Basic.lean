import Chip8.Keypad
import Chip8.Memory.Source
import Chip8.Random.Stream
import Chip8.Screen.Sprite
/-!
The machine as one value: registers, memory, screen, keypad and the stream of random words. Nothing
else is carried from one instruction to the next.
-/

namespace Chip8

structure Machine where
  registers : Registers
  memory : Memory
  screen : Screen
  keypad : Keypad
  random : Random.Stream
  deriving DecidableEq, Repr

namespace Machine

def powerOn (seed : UInt64) : Machine :=
  { registers := Registers.initial
    memory := Memory.initial
    screen := Screen.blank
    keypad := Keypad.released
    random := Random.Stream.start seed }

instance : Inhabited Machine := ⟨powerOn 0⟩

def reset (machine : Machine) : Machine :=
  powerOn machine.random.seed

/-- Resets the machine and puts a program in place. The program is laid into a fresh memory first,
and the machine is touched only if it fits there. -/
def load (machine : Machine) (program : List UInt8) : Except LoadError Unit × Machine :=
  match Memory.initial.loadProgram program with
  | (.error reason, _) => (.error reason, machine)
  | (.ok (), memory) => (.ok (), { machine.reset with memory := memory })

theorem load_of_fits (machine : Machine) {program : List UInt8}
    (fits : program.length ≤ programCapacity) :
    machine.load program = (.ok (), { machine.reset with
      memory := Memory.initial.overlay programStart.toNat program }) := by
  rw [load, Memory.initial.loadProgram_of_fits fits]

theorem load_of_tooLarge (machine : Machine) {program : List UInt8}
    (tooLarge : programCapacity < program.length) :
    machine.load program = (.error (.tooLarge program.length), machine) := by
  rw [load, Memory.initial.loadProgram_of_tooLarge tooLarge]

def loadFrom (machine : Machine) (source : ByteSource) : Except LoadError Unit × Machine :=
  match source.readToEnd with
  | .error reason => (.error reason, machine)
  | .ok program => machine.load program

theorem loadFrom_of_error (machine : Machine) {source : ByteSource} {reason : LoadError}
    (unread : source.readToEnd = .error reason) :
    machine.loadFrom source = (.error reason, machine) := by
  rw [loadFrom, unread]

theorem loadFrom_of_ok (machine : Machine) {source : ByteSource} {program : List UInt8}
    (read : source.readToEnd = .ok program) :
    machine.loadFrom source = machine.load program := by
  rw [loadFrom, read]

end Machine

end Chip8
