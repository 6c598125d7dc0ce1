import Chip8.Proofs.Operation
/-!
The invariant of a machine: its program counter, its index register and every slot of its stack hold
an address, and at most sixteen slots are occupied. Every operation keeps it, as long as instructions
from outside are decoded ones, so every machine that can be reached has it.
-/

namespace Chip8

namespace Registers

structure WellFormed (registers : Registers) : Prop where
  pc_le : registers.pc.toNat ≤ 0xfff
  index_le : registers.index.toNat ≤ 0xfff
  depth_le : registers.depth ≤ 16
  slot_le : ∀ number, (registers.slot number).toNat ≤ 0xfff

/-! ### Small changes -/

theorem slot_replicate (number : Nat) : initial.slot number = 0 := by
  unfold slot initial
  rw [Vector.getElem?_replicate]
  split <;> rfl

theorem slot_setIfInBounds (registers : Registers) (place : Nat) (address : UInt16)
    (number : Nat) :
    slot { registers with stack := registers.stack.setIfInBounds place address } number =
      if number = place ∧ place < 16 then address else registers.slot number := by
  unfold slot
  rw [Vector.getElem?_setIfInBounds]
  by_cases same : place = number
  · subst number
    by_cases inside : place < 16
    · simp [inside]
    · simp [inside]
  · have different : number ≠ place := fun equal => same equal.symm
    simp [same, different]

namespace WellFormed

variable {registers : Registers}

theorem initial : Registers.initial.WellFormed where
  pc_le := by decide
  index_le := by decide
  depth_le := by decide
  slot_le := by
    intro number
    rw [slot_replicate]
    decide

theorem jump (wellFormed : registers.WellFormed) (target : UInt16) :
    (registers.jump target).WellFormed :=
  { wellFormed with pc_le := toNat_and_addressMask_le target }

theorem advance (wellFormed : registers.WellFormed) (count : UInt16) :
    (registers.advance count).WellFormed :=
  wellFormed.jump _

theorem skipIf (wellFormed : registers.WellFormed) (condition : Bool) :
    (registers.skipIf condition).WellFormed :=
  wellFormed.advance _

theorem put (wellFormed : registers.WellFormed) (x : Nat) (byte : UInt8) :
    (registers.put x byte).WellFormed :=
  { wellFormed with }

theorem putOutcome (wellFormed : registers.WellFormed) (x : Nat)
    (outcome : UInt8 × Option UInt8) : (registers.putOutcome x outcome).WellFormed := by
  obtain ⟨result, carry⟩ := outcome
  cases carry with
  | none => exact wellFormed.put x result
  | some flag => exact (wellFormed.put _ flag).put x result

theorem putRun (wellFormed : registers.WellFormed) (first : Nat) (bytes : List UInt8) :
    (registers.putRun first bytes).WellFormed := by
  induction bytes generalizing registers first with
  | nil => exact wellFormed
  | cons byte rest ih => exact ih (wellFormed.put first byte) (first + 1)

theorem withIndex (wellFormed : registers.WellFormed) {address : UInt16}
    (bound : address.toNat ≤ 0xfff) : { registers with index := address }.WellFormed :=
  { wellFormed with index_le := bound }

theorem pushed (wellFormed : registers.WellFormed) (room : registers.depth < 16)
    {address : UInt16} (bound : address.toNat ≤ 0xfff) :
    (registers.pushed address).WellFormed where
  pc_le := wellFormed.pc_le
  index_le := wellFormed.index_le
  depth_le := room
  slot_le := by
    intro number
    change (slot { registers with
      stack := registers.stack.setIfInBounds registers.depth address } number).toNat ≤ 0xfff
    rw [slot_setIfInBounds]
    split
    · exact bound
    · exact wellFormed.slot_le number

theorem popped (wellFormed : registers.WellFormed) : registers.popped.WellFormed :=
  { wellFormed with depth_le := Nat.le_trans (Nat.sub_le _ _) wellFormed.depth_le }

theorem withTimers (wellFormed : registers.WellFormed) (delay sound : UInt8) :
    { registers with delay := delay, sound := sound }.WellFormed :=
  { wellFormed with }

end WellFormed

end Registers

namespace Machine

/-! ### One instruction -/

/-- Also a byte that is no digit points into memory. -/
theorem glyph_address_le (byte : UInt8) :
    (fontStart + byte.toUInt16 * UInt16.ofNat glyphRows).toNat ≤ 0xfff := by
  have small : byte.toNat * 5 < 4096 := by
    have bound := byte.toNat_lt
    omega
  have product : (byte.toUInt16 * UInt16.ofNat glyphRows).toNat = byte.toNat * 5 := by
    rw [UInt16.toNat_mul, UInt8.toNat_toUInt16]
    exact Nat.mod_eq_of_lt (Nat.lt_trans small (by decide))
  have start : fontStart.toNat = 0 := rfl
  rw [UInt16.toNat_add, product, start, Nat.zero_add,
    Nat.mod_eq_of_lt (Nat.lt_trans small (by decide))]
  exact Nat.le_of_lt_succ small

theorem registersAfter_wellFormed {machine : Machine} {instruction : Instruction}
    (wellFormed : machine.registers.WellFormed) (inRange : instruction.OperandsInRange)
    (passed : machine.fault? instruction = none) :
    (machine.registersAfter instruction).WellFormed := by
  cases instruction with
  | clear | storeDecimal x | storeRange x => exact wellFormed.advance 1
  | ret => exact (wellFormed.popped.jump _).advance 1
  | jump target => exact wellFormed.jump target
  | call target =>
      have room : machine.registers.depth < 16 := by
        apply Nat.lt_of_not_le
        intro full
        rw [fault?, if_pos full] at passed
        cases passed
      exact (wellFormed.pushed room wellFormed.pc_le).jump target
  | skipIfByte x byte | skipUnlessByte x byte | skipIfEqual x y | skipUnlessEqual x y
  | skipIfDown x | skipIfUp x => exact wellFormed.skipIf _
  | setByte x byte | addByte x byte | random x mask | readDelay x | draw x y rows =>
      exact (wellFormed.put _ _).advance 1
  | alu operation x y => exact (wellFormed.putOutcome x _).advance 1
  | setIndex address =>
      have bound : address.toNat ≤ 0xfff := inRange
      exact (wellFormed.withIndex bound).advance 1
  | jumpFromV0 base => exact wellFormed.jump _
  | awaitKey x =>
      unfold registersAfter
      dsimp only
      split
      · exact (wellFormed.put _ _).advance 1
      · exact wellFormed
  | setDelay x | setSound x => exact (wellFormed.withTimers _ _).advance 1
  | addIndex x =>
      have masked := Registers.toNat_and_addressMask_le (machine.indexSum x)
      exact ((wellFormed.withIndex masked).put _ _).advance 1
  | pointAtGlyph x =>
      have glyph := glyph_address_le (machine.registers.value x)
      exact (wellFormed.withIndex glyph).advance 1
  | loadRange x => exact (wellFormed.putRun 0 _).advance 1
  | unassigned opcode => exact wellFormed

theorem execute_wellFormed {machine : Machine} {instruction : Instruction}
    (wellFormed : machine.registers.WellFormed) (inRange : instruction.OperandsInRange) :
    (machine.perform (execute instruction)).2.registers.WellFormed := by
  rw [perform_execute, machine.residue_of_operandsInRange inRange]
  cases passed : machine.fault? instruction with
  | none => exact registersAfter_wellFormed wellFormed inRange passed
  | some fault => exact wellFormed

theorem stepped_wellFormed {machine : Machine} (wellFormed : machine.registers.WellFormed) :
    machine.stepped.registers.WellFormed := by
  rcases machine.stepped_cases with ⟨_, passed, updated⟩ | ⟨_, unchanged⟩
  · rw [updated]
    exact registersAfter_wellFormed wellFormed machine.current_operandsInRange passed
  · rw [unchanged]
    exact wellFormed

/-! ### Every history -/

theorem afterMove_wellFormed {machine : Machine} (move : Move)
    (wellFormed : machine.registers.WellFormed) :
    (machine.afterMove move).registers.WellFormed := by
  refine afterMove_induction (fun machine => machine.registers.WellFormed) ?_ ?_ ?_
    wellFormed move
  · intro before here
    exact here.withTimers _ _
  · intro before here
    exact stepped_wellFormed here
  · intro before operation here
    exact here

theorem eq_of_load {machine loaded : Machine} {program : List UInt8}
    (accepted : machine.load program = (.ok (), loaded)) :
    loaded = { machine.reset with memory := loaded.memory } := by
  rcases Nat.lt_or_ge programCapacity program.length with tooLarge | fits
  · rw [machine.load_of_tooLarge tooLarge] at accepted
    cases accepted
  · rw [machine.load_of_fits fits] at accepted
    rw [← (Prod.mk.inj accepted).2]

theorem load_registers {machine loaded : Machine} {program : List UInt8}
    (accepted : machine.load program = (.ok (), loaded)) :
    loaded.registers = Registers.initial := by
  rw [eq_of_load accepted]
  rfl

theorem load_screen {machine loaded : Machine} {program : List UInt8}
    (accepted : machine.load program = (.ok (), loaded)) : loaded.screen = Screen.blank := by
  rw [eq_of_load accepted]
  rfl

theorem afterOperation_wellFormed {machine : Machine} {operation : Operation}
    (decoded : operation.Decoded) (wellFormed : machine.registers.WellFormed) :
    (machine.afterOperation operation).registers.WellFormed := by
  cases operation with
  | move move => exact afterMove_wellFormed move wellFormed
  | load program =>
      exact load_induction (fun machine => machine.registers.WellFormed) wellFormed
        (fun _ => .initial) program
  | loadFrom source =>
      exact loadFrom_induction (fun machine => machine.registers.WellFormed) wellFormed
        (fun _ => .initial) source
  | reset => exact .initial
  | execute instruction =>
      obtain ⟨opcode, rfl⟩ := decoded
      exact execute_wellFormed wellFormed (Instruction.decode_operandsInRange opcode)
  | screen operation => exact wellFormed

theorem afterOperations_wellFormed (seed : UInt64) {operations : List Operation}
    (decoded : ∀ operation ∈ operations, operation.Decoded) :
    ((powerOn seed).afterOperations operations).registers.WellFormed :=
  afterOperations_induction (fun machine => machine.registers.WellFormed)
    (fun _ _ allowed wellFormed => afterOperation_wellFormed allowed wellFormed)
    .initial operations decoded

end Machine

end Chip8
