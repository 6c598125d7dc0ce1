import Chip8.Proofs.CheckedExecution
import Chip8.Proofs.WellFormed
/-!
What the invariant is for: in a machine that can be reached no arithmetic of an instruction leaves
its type, and no register or slot is missed.
-/

namespace Chip8

theorem Memory.fault?_ne_invalidIndex {address : UInt16} {length : Nat} {fault : Fault}
    (found : Memory.fault? address length = some fault) (bank : Bank) (index : Nat) :
    fault ≠ .invalidIndex bank index := by
  intro missed
  subst fault
  unfold Memory.fault? at found
  split at found
  · cases found
  · cases found

namespace Machine

theorem fault?_ne_invalidIndex {machine : Machine} {instruction : Instruction} {fault : Fault}
    (depth_le : machine.registers.depth ≤ 16) (inRange : instruction.OperandsInRange)
    (found : machine.fault? instruction = some fault) (bank : Bank) (index : Nat) :
    fault ≠ .invalidIndex bank index := by
  cases instruction with
  | clear | jump _ | setIndex _ | jumpFromV0 _ | unassigned _ => cases found
  | ret =>
      have bounded : machine.registers.depth - 1 < 16 := by omega
      rw [fault?, if_pos bounded] at found
      split at found
      · cases found
        exact Fault.noConfusion
      · cases found
  | call target =>
      rw [fault?] at found
      split at found
      · cases found
        exact Fault.noConfusion
      · cases found
  | skipIfByte x _ | skipUnlessByte x _ | setByte x _ | addByte x _ | random x _ | skipIfDown x
  | skipIfUp x | readDelay x | setDelay x | setSound x | addIndex x | pointAtGlyph x =>
      have inside : x < 16 := inRange
      rw [fault?, Registers.fault?_of_lt inside] at found
      cases found
  | skipIfEqual x y | alu _ x y | skipUnlessEqual x y =>
      obtain ⟨first, second⟩ : x < 16 ∧ y < 16 := inRange
      rw [fault?, Registers.fault?_of_lt first, Registers.fault?_of_lt second] at found
      cases found
  | awaitKey x =>
      have inside : x < 16 := inRange
      rw [fault?, Registers.fault?_of_lt inside, ite_self] at found
      cases found
  | draw x y rows =>
      obtain ⟨first, second, _⟩ : x < 16 ∧ y < 16 ∧ rows.toNat < 16 := inRange
      rw [fault?, Registers.fault?_of_lt first, Registers.fault?_of_lt second] at found
      exact Memory.fault?_ne_invalidIndex found bank index
  | storeDecimal x =>
      have inside : x < 16 := inRange
      rw [fault?, Registers.fault?_of_lt inside] at found
      exact Memory.fault?_ne_invalidIndex found bank index
  | storeRange x =>
      have inside : x < 16 := inRange
      rw [fault?, Registers.runFault?_of_lt inside] at found
      exact Memory.fault?_ne_invalidIndex found bank index
  | loadRange x =>
      have inside : x < 16 := inRange
      rw [fault?, Registers.runFault?_of_lt inside] at found
      cases refused : Memory.fault? machine.registers.index (x + 1) with
      | none =>
          rw [refused] at found
          cases found
      | some reason =>
          rw [refused] at found
          rw [← Option.some.inj found]
          exact Memory.fault?_ne_invalidIndex refused bank index

theorem execute_ne_invalidIndex {machine : Machine} {instruction : Instruction}
    (depth_le : machine.registers.depth ≤ 16) (inRange : instruction.OperandsInRange)
    (bank : Bank) (index : Nat) :
    (machine.perform (execute instruction)).1 ≠ .error (.invalidIndex bank index) := by
  rw [perform_execute]
  cases found : machine.fault? instruction with
  | none =>
      intro missed
      cases missed
  | some fault =>
      intro missed
      exact fault?_ne_invalidIndex depth_le inRange found bank index (Except.error.inj missed)

/-- Every machine that can be reached keeps its addresses within twelve bits and at most sixteen
calls open, and whatever word it executes, checked arithmetic gives the same result. -/
theorem reachable_executes_within_bounds (seed : UInt64) (operations : List Operation)
    (decoded : ∀ operation ∈ operations, operation.Decoded) :
    let machine := (powerOn seed).afterOperations operations
    machine.registers.pc.toNat ≤ 0xfff ∧
      machine.registers.index.toNat ≤ 0xfff ∧
      machine.registers.depth ≤ 16 ∧
      (∀ address ∈ machine.registers.stack.toList, address.toNat ≤ 0xfff) ∧
      machine.memory.bytes.toList.length = 4096 ∧
      ∀ opcode : UInt16,
        machine.performChecked (executeChecked (Instruction.decode opcode)) =
            some (machine.perform (execute (Instruction.decode opcode))) ∧
          ∀ (bank : Bank) (index : Nat),
            (machine.perform (execute (Instruction.decode opcode))).1 ≠
              .error (.invalidIndex bank index) := by
  intro machine
  have wellFormed : machine.registers.WellFormed := afterOperations_wellFormed seed decoded
  refine ⟨wellFormed.pc_le, wellFormed.index_le, wellFormed.depth_le, ?_, ?_, ?_⟩
  · intro address listed
    obtain ⟨place, inside, rfl⟩ := List.mem_iff_getElem.mp listed
    have bound := wellFormed.slot_le place
    rw [Vector.length_toList] at inside
    rw [Registers.slot, Vector.getElem?_eq_getElem inside] at bound
    exact bound
  · exact Vector.length_toList
  · intro opcode
    have inRange := Instruction.decode_operandsInRange opcode
    exact ⟨agrees_execute wellFormed.index_le inRange,
      execute_ne_invalidIndex wellFormed.depth_le inRange⟩

/-- A program that calls itself, run until it has no slot left, executes within bounds. -/
theorem endless_calls_execute_within_bounds :
    (∀ operation ∈ .load [0x22, 0x00] :: List.replicate 17 (.move .tick),
        Operation.Decoded operation) ∧
      let machine := (powerOn 0).afterOperations
        (.load [0x22, 0x00] :: List.replicate 17 (.move .tick))
      machine.registers.depth ≤ 16 ∧
        machine.performChecked (executeChecked (Instruction.decode 0xf01e)) =
          some (machine.perform (execute (Instruction.decode 0xf01e))) := by
  have decoded : ∀ operation ∈ .load [0x22, 0x00] :: List.replicate 17 (.move .tick),
      Operation.Decoded operation := by
    intro operation listed
    rcases List.mem_cons.mp listed with rfl | repeated
    · exact True.intro
    · rw [List.eq_of_mem_replicate repeated]
      exact True.intro
  have bounds := reachable_executes_within_bounds 0 _ decoded
  dsimp only at bounds ⊢
  exact ⟨decoded, bounds.2.2.1, (bounds.2.2.2.2.2 0xf01e).1⟩

end Machine

end Chip8
