import Chip8.Log
import Chip8.Machine.Tick
/-!
What the operations of the machine log, as functions of the machine before the operation.
-/

namespace Chip8.Machine

def loadLog (program : List UInt8) : List LogEntry :=
  if program.length ≤ programCapacity then [.loaded program.length] else []

def executeLog (machine : Machine) : Instruction → List LogEntry
  | .unassigned opcode => [.unassigned machine.registers.pc opcode]
  | _ => []

/-- The instruction is logged before it is executed, and only if it could be fetched. -/
def stepLog (machine : Machine) : List LogEntry :=
  match machine.fetch with
  | .error _ => []
  | .ok opcode =>
      let instruction := Instruction.decode opcode
      .fetched machine.registers.pc opcode instruction :: machine.executeLog instruction

/-- A fault is logged last, at the address where the failed step has left the program counter. -/
def cycleLog (machine : Machine) : List LogEntry :=
  match machine.perform step with
  | (.ok _, _) => machine.stepLog
  | (.error fault, next) => machine.stepLog ++ [.faulted next.registers.pc fault]

def beatLog (machine : Machine) (count : Nat) : List LogEntry :=
  (machine.countDownTimes count).1.cycleLog

def tickLog (machine : Machine) : List LogEntry :=
  machine.beatLog 1

end Chip8.Machine
