import Chip8.Fault
/-!
The register file: sixteen byte registers, the index register, the program counter, the call stack
and the two timers.

Only the program counter is kept within the twelve bits of an address here. The index register
holds whatever word it is given.
-/

namespace Chip8

def addressMask : UInt16 := 0xfff

def programStart : UInt16 := 0x200

structure Registers where
  v : Vector UInt8 16
  index : UInt16
  pc : UInt16
  /-- The occupied slots are those below `depth`; a slot above it keeps the last address it held. -/
  stack : Vector UInt16 16
  depth : Nat
  delay : UInt8
  sound : UInt8
  deriving DecidableEq, Repr

namespace Registers

def flag : Nat := 15

def stackSlots : Nat := 16

def initial : Registers :=
  { v := Vector.replicate 16 0
    index := 0
    pc := programStart
    stack := Vector.replicate 16 0
    depth := 0
    delay := 0
    sound := 0 }

instance : Inhabited Registers := ⟨initial⟩

/-! ### Byte registers -/

def read (registers : Registers) (x : Nat) : Except Fault UInt8 :=
  match registers.v[x]? with
  | some value => .ok value
  | none => .error (.invalidIndex .register x)

def write (registers : Registers) (x : Nat) (value : UInt8) : Except Fault Registers :=
  if x < 16 then .ok { registers with v := registers.v.setIfInBounds x value }
  else .error (.invalidIndex .register x)

theorem read_eq (registers : Registers) {x : Nat} (inside : x < 16) :
    registers.read x = .ok registers.v[x] := by
  unfold read
  rw [Vector.getElem?_eq_getElem inside]

theorem read_outside (registers : Registers) {x : Nat} (outside : 16 ≤ x) :
    registers.read x = .error (.invalidIndex .register x) := by
  unfold read
  rw [Vector.getElem?_eq_none outside]

theorem write_eq (registers : Registers) {x : Nat} (inside : x < 16) (value : UInt8) :
    registers.write x value =
      .ok { registers with v := registers.v.setIfInBounds x value } :=
  if_pos inside

theorem write_outside (registers : Registers) {x : Nat} (outside : 16 ≤ x) (value : UInt8) :
    registers.write x value = .error (.invalidIndex .register x) :=
  if_neg (Nat.not_lt.mpr outside)

def readRun (registers : Registers) (first : Nat) : Nat → Except Fault (List UInt8)
  | 0 => .ok []
  | count + 1 => do
      let value ← registers.read first
      let rest ← registers.readRun (first + 1) count
      return value :: rest

/-! ### Program counter -/

def jump (registers : Registers) (target : UInt16) : Registers :=
  { registers with pc := target &&& addressMask }

/-- Moves on by whole instructions, round the end of the address space. -/
def advance (registers : Registers) (count : UInt16) : Registers :=
  registers.jump (registers.pc + 2 * count)

def skipIf (registers : Registers) (condition : Bool) : Registers :=
  registers.advance (if condition then 2 else 1)

/-! ### Call stack -/

def readSlot (registers : Registers) (slot : Nat) : Except Fault UInt16 :=
  match registers.stack[slot]? with
  | some address => .ok address
  | none => .error (.invalidIndex .stack slot)

def writeSlot (registers : Registers) (slot : Nat) (address : UInt16) : Except Fault Registers :=
  if slot < stackSlots then
    .ok { registers with stack := registers.stack.setIfInBounds slot address }
  else .error (.invalidIndex .stack slot)

def push (registers : Registers) (address : UInt16) : Except Fault Registers :=
  if stackSlots ≤ registers.depth then .error (.stackOverflow registers.depth)
  else do
    let written ← registers.writeSlot registers.depth address
    return { written with depth := registers.depth + 1 }

theorem push_eq (registers : Registers) (room : registers.depth < 16) (address : UInt16) :
    registers.push address = .ok
      { registers with
        stack := registers.stack.setIfInBounds registers.depth address
        depth := registers.depth + 1 } := by
  have free : registers.depth < stackSlots := room
  unfold push writeSlot
  rw [if_neg (Nat.not_le.mpr free), if_pos free]
  rfl

theorem push_full (registers : Registers) (full : 16 ≤ registers.depth) (address : UInt16) :
    registers.push address = .error (.stackOverflow registers.depth) :=
  if_pos full

/-- Gives up the newest slot, which keeps its address. -/
def pop (registers : Registers) : Except Fault (UInt16 × Registers) :=
  if registers.depth = 0 then .error .stackUnderflow
  else do
    let address ← registers.readSlot (registers.depth - 1)
    return (address, { registers with depth := registers.depth - 1 })

theorem pop_eq (registers : Registers) (used : registers.depth ≠ 0)
    (bounded : registers.depth - 1 < 16) :
    registers.pop = .ok
      (registers.stack[registers.depth - 1],
        { registers with depth := registers.depth - 1 }) := by
  have readBack : registers.readSlot (registers.depth - 1) =
      .ok registers.stack[registers.depth - 1] := by
    unfold readSlot
    rw [Vector.getElem?_eq_getElem bounded]
  unfold pop
  rw [if_neg used, readBack]
  rfl

theorem pop_empty (registers : Registers) (empty : registers.depth = 0) :
    registers.pop = .error .stackUnderflow :=
  if_pos empty

/-! ### Timers -/

def countDown (registers : Registers) : Registers :=
  { registers with
    delay := if registers.delay = 0 then 0 else registers.delay - 1
    sound := if registers.sound = 0 then 0 else registers.sound - 1 }

end Registers

end Chip8
