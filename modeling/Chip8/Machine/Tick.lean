import Chip8.Machine.Execute
import Chip8.Tone
/-!
The beat of the machine: the timers go down, then one instruction is fetched and executed. A fault
ends the beat without stopping the machine.
-/

namespace Chip8.Machine

def fetch (machine : Machine) : Except Fault UInt16 :=
  machine.memory.readWord machine.registers.pc

def step : Action Instruction := do
  let instruction := Instruction.decode (← Action.attempt (← get).fetch)
  execute instruction
  return instruction

/-- Counts the timers down once; the sound timer signals when it reaches zero. -/
def countDown (machine : Machine) : Machine × Option Tone :=
  ({ machine with registers := machine.registers.countDown },
    if machine.registers.sound = 1 then some .stop else none)

/-- One instruction, faulted or not; the sound timer signals when it leaves zero. -/
def cycle (machine : Machine) : Machine × Option Tone :=
  let next := (machine.perform step).2
  (next,
    if machine.registers.sound = 0 ∧ next.registers.sound ≠ 0 then some .start else none)

def countDownTimes (machine : Machine) : Nat → Machine × Option Tone
  | 0 => (machine, none)
  | count + 1 =>
      let before := machine.countDownTimes count
      let last := before.1.countDown
      (last.1, last.2.or before.2)

/-- Counts down `count` times, then runs one instruction. A start overrides a stop. -/
def beat (machine : Machine) (count : Nat) : Machine × Option Tone :=
  let counted := machine.countDownTimes count
  let cycled := counted.1.cycle
  (cycled.1, cycled.2.or counted.2)

def tick (machine : Machine) : Machine × Option Tone :=
  machine.beat 1

end Chip8.Machine
