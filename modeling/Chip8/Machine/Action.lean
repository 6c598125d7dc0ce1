import Chip8.Machine.Basic
/-!
Steps that change the machine and may fault. What a step has done before its fault stays done, so
the order of reads, writes and checks matters.
-/

namespace Chip8.Machine

abbrev Action : Type → Type := ExceptT Fault (StateM Machine)

/-- The result of an action together with the machine it leaves, faulted or not. -/
def perform {α : Type} (machine : Machine) (action : Action α) : Except Fault α × Machine :=
  StateT.run action.run machine

theorem perform_bind {α β : Type} (machine : Machine) (first : Action α) (next : α → Action β) :
    machine.perform (first >>= next) =
      match machine.perform first with
      | (.ok value, after) => after.perform (next value)
      | (.error fault, after) => (.error fault, after) := by
  unfold perform
  rw [ExceptT.run_bind, StateT.run_bind]
  generalize StateT.run first.run machine = outcome
  rcases outcome with ⟨result, after⟩
  cases result <;> rfl

theorem perform_get (machine : Machine) : machine.perform get = (.ok machine, machine) := rfl

namespace Action

def attempt {α : Type} : Except Fault α → Action α
  | .ok value => pure value
  | .error fault => throw fault

theorem perform_attempt {α : Type} (machine : Machine) (result : Except Fault α) :
    machine.perform (attempt result) = (result, machine) := by
  cases result <;> rfl

/-! ### Registers -/

def setRegisters (registers : Registers) : Action Unit :=
  modify fun machine => { machine with registers := registers }

def readV (x : Nat) : Action UInt8 := do
  attempt ((← get).registers.read x)

theorem perform_readV (machine : Machine) (x : Nat) :
    machine.perform (readV x) = (machine.registers.read x, machine) := by
  rw [readV, perform_bind, perform_get]
  exact perform_attempt _ _

def writeV (x : Nat) (value : UInt8) : Action Unit := do
  setRegisters (← attempt ((← get).registers.write x value))

theorem perform_writeV (machine : Machine) {x : Nat} (inside : x < 16) (value : UInt8) :
    machine.perform (writeV x value) =
      (.ok (), { machine with
        registers := { machine.registers with
          v := machine.registers.v.setIfInBounds x value } }) := by
  rw [writeV, perform_bind, perform_get]
  change machine.perform (attempt _ >>= setRegisters) = _
  rw [perform_bind, perform_attempt, Registers.write_eq _ inside]
  rfl

theorem perform_writeV_outside (machine : Machine) {x : Nat} (outside : 16 ≤ x) (value : UInt8) :
    machine.perform (writeV x value) = (.error (.invalidIndex .register x), machine) := by
  rw [writeV, perform_bind, perform_get]
  change machine.perform (attempt _ >>= setRegisters) = _
  rw [perform_bind, perform_attempt, Registers.write_outside _ outside]

def writeRun (first : Nat) : List UInt8 → Action Unit
  | [] => pure ()
  | value :: rest => do
      writeV first value
      writeRun (first + 1) rest

def advance (count : UInt16) : Action Unit := do
  setRegisters ((← get).registers.advance count)

def skipIf (condition : Bool) : Action Unit := do
  setRegisters ((← get).registers.skipIf condition)

def jump (target : UInt16) : Action Unit := do
  setRegisters ((← get).registers.jump target)

def setIndex (address : UInt16) : Action Unit := do
  setRegisters { (← get).registers with index := address }

def push (address : UInt16) : Action Unit := do
  setRegisters (← attempt ((← get).registers.push address))

def pop : Action UInt16 := do
  let popped ← attempt (← get).registers.pop
  setRegisters popped.2
  return popped.1

/-! ### Memory at the index register -/

def readIndexed (length : Nat) : Action (List UInt8) := do
  let machine ← get
  attempt (machine.memory.slice machine.registers.index length)

def writeIndexed (data : List UInt8) : Action Unit := do
  let machine ← get
  let memory ← attempt (machine.memory.writeSlice machine.registers.index data)
  set { machine with memory := memory }

/-! ### Screen and random words -/

def modifyScreen (change : Screen → Screen) : Action Unit :=
  modify fun machine => { machine with screen := change machine.screen }

def randomByte : Action UInt8 := do
  let machine ← get
  set { machine with random := machine.random.tail }
  return machine.random.head.toUInt8

end Action

end Chip8.Machine
