import Chip8.Proofs.Encoding
import Chip8.Proofs.WellFormed
/-!
Which steps fault, and how. In a machine that keeps its addresses within twelve bits the program
counter, the word it points at, the index register and the depth of the stack decide it. The general
registers, the timers and the keys have no part in it.
-/

namespace Chip8

namespace Memory

theorem fault?_eq_some_iff {address : UInt16} {length : Nat} {fault : Fault}
    (inside : address.toNat ≤ 0xfff) :
    fault? address length = some fault ↔
      4096 < address.toNat + length ∧ .invalidAddress (address.toNat + length - 1) = fault := by
  unfold fault?
  by_cases fits : Fits address length
  · have room : address.toNat + length ≤ 4096 := fits
    rw [if_pos fits]
    constructor
    · intro impossible
      cases impossible
    · intro both
      exact absurd room (Nat.not_le.mpr both.1)
  · have beyond : 4096 < address.toNat + length := Nat.not_le.mp fits
    have last : address.toNat + (length - 1) = address.toNat + length - 1 := by omega
    rw [if_neg fits, and_iff_right beyond, Option.some.injEq, outside, last]

end Memory

namespace Machine

def word (machine : Machine) : Nat :=
  0x100 * (machine.memory.byteAt machine.registers.pc.toNat).toNat +
    (machine.memory.byteAt (machine.registers.pc.toNat + 1)).toNat

/-- A step of the machine fails, and with this fault. -/
inductive StepFaults (machine : Machine) : Fault → Prop where
  | unfetched (last : machine.registers.pc = 0xfff) : StepFaults machine (.invalidAddress 0x1000)
  | underflow (fetched : machine.registers.pc ≠ 0xfff) (word : machine.word = 0x00ee)
      (empty : machine.registers.depth = 0) : StepFaults machine .stackUnderflow
  | overflow {target : Nat} (fetched : machine.registers.pc ≠ 0xfff) (below : target < 0x1000)
      (word : machine.word = 0x2000 + target) (full : machine.registers.depth = 16) :
      StepFaults machine (.stackOverflow 16)
  | sprite {x y rows : Nat} (fetched : machine.registers.pc ≠ 0xfff) (digits : x < 16 ∧ y < 16)
      (narrow : rows < 16) (word : machine.word = 0xd000 + 0x100 * x + 0x10 * y + rows)
      (outside : 4096 < machine.registers.index.toNat + rows) :
      StepFaults machine (.invalidAddress (machine.registers.index.toNat + rows - 1))
  | decimal {x : Nat} (fetched : machine.registers.pc ≠ 0xfff) (digit : x < 16)
      (word : machine.word = 0xf000 + 0x100 * x + 0x33)
      (outside : 4096 < machine.registers.index.toNat + 3) :
      StepFaults machine (.invalidAddress (machine.registers.index.toNat + 2))
  | range {x : Nat} (fetched : machine.registers.pc ≠ 0xfff) (digit : x < 16)
      (word : machine.word = 0xf000 + 0x100 * x + 0x55 ∨ machine.word = 0xf000 + 0x100 * x + 0x65)
      (outside : 4096 < machine.registers.index.toNat + x + 1) :
      StepFaults machine (.invalidAddress (machine.registers.index.toNat + x))

variable {machine : Machine}

theorem toNat_opcode : machine.opcode.toNat = machine.word := by
  have high := (machine.memory.byteAt machine.registers.pc.toNat).toNat_lt
  have low := (machine.memory.byteAt (machine.registers.pc.toNat + 1)).toNat_lt
  unfold opcode word
  rw [UInt16.toNat_add, UInt16.toNat_mul, UInt8.toNat_toUInt16, UInt8.toNat_toUInt16]
  simp only [UInt16.reduceToNat]
  omega

theorem current_encodedBy : machine.current.EncodedBy machine.word := by
  rw [← toNat_opcode]
  exact Instruction.decode_encodedBy machine.opcode

theorem current_of_encodedBy {instruction : Instruction}
    (assigned : instruction.Assigned)
    (means : instruction.EncodedBy machine.word) : machine.current = instruction := by
  rw [← toNat_opcode] at means
  exact (Instruction.decode_eq_iff assigned).mpr means

theorem fetchFault?_eq (bound : machine.registers.pc.toNat ≤ 0xfff) :
    Memory.fault? machine.registers.pc 2 =
      if machine.registers.pc = 0xfff then some (.invalidAddress 0x1000) else none := by
  by_cases last : machine.registers.pc = 0xfff
  · rw [last]
    rfl
  · have before : machine.registers.pc.toNat ≠ 0xfff := fun equal =>
      last (UInt16.toNat_inj.mp equal)
    have fits : Memory.Fits machine.registers.pc 2 := by
      change machine.registers.pc.toNat + 2 ≤ 4096
      omega
    rw [if_neg last]
    exact if_pos fits

theorem stepFault?_of_fetched (bound : machine.registers.pc.toNat ≤ 0xfff)
    (fetched : machine.registers.pc ≠ 0xfff) :
    machine.stepFault? = machine.fault? machine.current := by
  rw [stepFault?, fetchFault?_eq bound, if_neg fetched]
  rfl

theorem fault?_eq_some_iff {instruction : Instruction} {fault : Fault}
    (wellFormed : machine.registers.WellFormed) (inRange : instruction.OperandsInRange) :
    machine.fault? instruction = some fault ↔
      match instruction with
      | .ret => machine.registers.depth = 0 ∧ .stackUnderflow = fault
      | .call _ => machine.registers.depth = 16 ∧ .stackOverflow 16 = fault
      | .draw _ _ rows =>
          4096 < machine.registers.index.toNat + rows.toNat ∧
            .invalidAddress (machine.registers.index.toNat + rows.toNat - 1) = fault
      | .storeDecimal _ =>
          4096 < machine.registers.index.toNat + 3 ∧
            .invalidAddress (machine.registers.index.toNat + 2) = fault
      | .storeRange x | .loadRange x =>
          4096 < machine.registers.index.toNat + x + 1 ∧
            .invalidAddress (machine.registers.index.toNat + x) = fault
      | _ => False := by
  have memory : ∀ length, Memory.fault? machine.registers.index length = some fault ↔ _ :=
    fun length => Memory.fault?_eq_some_iff wellFormed.index_le
  cases instruction with
  | clear | jump target | setIndex address | jumpFromV0 base | unassigned opcode =>
      simp only [fault?, reduceCtorEq]
  | ret =>
      have depth := wellFormed.depth_le
      by_cases empty : machine.registers.depth = 0
      · simp only [fault?, empty, if_true, true_and, Option.some.injEq]
      · have room : machine.registers.depth - 1 < 16 := by omega
        simp only [fault?, empty, room, if_true, if_false, reduceCtorEq, false_and]
  | call target =>
      have depth := wellFormed.depth_le
      by_cases full : machine.registers.depth = 16
      · simp only [fault?, full, Nat.le_refl, if_true, true_and, Option.some.injEq]
      · have room : ¬16 ≤ machine.registers.depth := by omega
        simp only [fault?, full, room, if_false, reduceCtorEq, false_and]
  | skipIfByte x | skipUnlessByte x | setByte x | addByte x | random x | skipIfDown x | skipIfUp x
  | readDelay x | setDelay x | setSound x | addIndex x | pointAtGlyph x =>
      simp only [fault?, Registers.fault?_of_lt inRange, reduceCtorEq]
  | skipIfEqual x y | alu operation x y | skipUnlessEqual x y =>
      simp only [fault?, Registers.fault?_of_lt inRange.1, Registers.fault?_of_lt inRange.2,
        Option.orElse_eq_orElse, Option.orElse_eq_or, Option.or_none, reduceCtorEq]
  | awaitKey x =>
      simp only [fault?, Registers.fault?_of_lt inRange, ite_self, reduceCtorEq]
  | draw x y rows =>
      simp only [fault?, Registers.fault?_of_lt inRange.1, Registers.fault?_of_lt inRange.2.1]
      exact memory rows.toNat
  | storeDecimal x =>
      simp only [fault?, Registers.fault?_of_lt inRange]
      exact memory 3
  | storeRange x =>
      simp only [fault?, Registers.runFault?_of_lt inRange]
      exact memory (x + 1)
  | loadRange x =>
      simp only [fault?, Registers.runFault?_of_lt inRange, Option.orElse_eq_orElse,
        Option.orElse_eq_or, Option.or_none]
      exact memory (x + 1)

theorem stepFaults_of_fault? {instruction : Instruction} {fault : Fault}
    (wellFormed : machine.registers.WellFormed) (fetched : machine.registers.pc ≠ 0xfff)
    (means : instruction.EncodedBy machine.word) (inRange : instruction.OperandsInRange)
    (failed : machine.fault? instruction = some fault) : machine.StepFaults fault := by
  have reason := (fault?_eq_some_iff wellFormed inRange).mp failed
  cases instruction with
  | ret =>
      obtain ⟨empty, rfl⟩ := reason
      exact .underflow fetched means empty
  | call target =>
      obtain ⟨full, rfl⟩ := reason
      exact .overflow fetched means.1 means.2 full
  | draw x y rows =>
      obtain ⟨xInside, yInside, narrow, word⟩ := means
      obtain ⟨outside, rfl⟩ := reason
      exact .sprite fetched ⟨xInside, yInside⟩ narrow word outside
  | storeDecimal x =>
      obtain ⟨outside, rfl⟩ := reason
      exact .decimal fetched means.1 means.2 outside
  | storeRange x =>
      obtain ⟨outside, rfl⟩ := reason
      exact .range fetched means.1 (.inl means.2) outside
  | loadRange x =>
      obtain ⟨outside, rfl⟩ := reason
      exact .range fetched means.1 (.inr means.2) outside
  | _ => cases reason

theorem fault?_current_of_encodedBy {fault : Fault} (instruction : Instruction)
    (assigned : instruction.Assigned) (means : instruction.EncodedBy machine.word)
    (failed : instruction.OperandsInRange → machine.fault? instruction = some fault) :
    machine.fault? machine.current = some fault := by
  have inRange := machine.current_operandsInRange
  rw [current_of_encodedBy assigned means] at inRange ⊢
  exact failed inRange

theorem StepFaults.fault?_current {fault : Fault} (faults : machine.StepFaults fault)
    (wellFormed : machine.registers.WellFormed) (fetched : machine.registers.pc ≠ 0xfff) :
    machine.fault? machine.current = some fault := by
  cases faults with
  | unfetched last => exact absurd last fetched
  | underflow _ word empty =>
      apply fault?_current_of_encodedBy .ret trivial word
      intro inRange
      exact (fault?_eq_some_iff wellFormed inRange).mpr ⟨empty, rfl⟩
  | @overflow target _ below word full =>
      have same : (UInt16.ofNat target).toNat = target :=
        UInt16.toNat_ofNat_of_lt' (Nat.lt_trans below (by decide))
      have means : (Instruction.call (UInt16.ofNat target)).EncodedBy machine.word := by
        simp only [Instruction.EncodedBy, same]
        exact ⟨below, word⟩
      apply fault?_current_of_encodedBy (.call _) trivial means
      intro inRange
      exact (fault?_eq_some_iff wellFormed inRange).mpr ⟨full, rfl⟩
  | @sprite x y rows _ digits narrow word outside =>
      have same : (UInt8.ofNat rows).toNat = rows :=
        UInt8.toNat_ofNat_of_lt' (Nat.lt_trans narrow (by decide))
      have means : (Instruction.draw x y (UInt8.ofNat rows)).EncodedBy machine.word := by
        simp only [Instruction.EncodedBy, same]
        exact ⟨digits.1, digits.2, narrow, word⟩
      apply fault?_current_of_encodedBy (.draw _ _ _) trivial means
      intro inRange
      apply (fault?_eq_some_iff wellFormed inRange).mpr
      dsimp only
      rw [same]
      exact ⟨outside, rfl⟩
  | decimal _ digit word outside =>
      apply fault?_current_of_encodedBy (.storeDecimal _) trivial ⟨digit, word⟩
      intro inRange
      exact (fault?_eq_some_iff wellFormed inRange).mpr ⟨outside, rfl⟩
  | range _ digit word outside =>
      rcases word with store | load
      · apply fault?_current_of_encodedBy (.storeRange _) trivial ⟨digit, store⟩
        intro inRange
        exact (fault?_eq_some_iff wellFormed inRange).mpr ⟨outside, rfl⟩
      · apply fault?_current_of_encodedBy (.loadRange _) trivial ⟨digit, load⟩
        intro inRange
        exact (fault?_eq_some_iff wellFormed inRange).mpr ⟨outside, rfl⟩

theorem stepFault?_eq_some_iff {fault : Fault} (wellFormed : machine.registers.WellFormed) :
    machine.stepFault? = some fault ↔ machine.StepFaults fault := by
  by_cases last : machine.registers.pc = 0xfff
  · rw [stepFault?, fetchFault?_eq wellFormed.pc_le, if_pos last]
    constructor
    · intro same
      cases same
      exact .unfetched last
    · intro faults
      cases faults with
      | unfetched last => rfl
      | underflow fetched | overflow fetched | sprite fetched | decimal fetched | range fetched =>
          exact absurd last fetched
  · rw [stepFault?_of_fetched wellFormed.pc_le last]
    constructor
    · exact stepFaults_of_fault? wellFormed last machine.current_encodedBy
        machine.current_operandsInRange
    · intro faults
      exact faults.fault?_current wellFormed last

theorem perform_step_eq_error_iff {fault : Fault} :
    (machine.perform step).1 = .error fault ↔ machine.stepFault? = some fault := by
  rw [perform_step]
  cases machine.stepFault? with
  | none => simp only [reduceCtorEq]
  | some reason => rw [Except.error.injEq, Option.some.injEq]

/-- A step of a machine that can be reached fails exactly when one of the named things is wrong, and
with that fault. Every other step gives the instruction that the word means, also where it means none. -/
theorem reachable_step_fails_iff (seed : UInt64) (operations : List Operation)
    (decoded : ∀ operation ∈ operations, operation.Decoded) :
    let machine := (powerOn seed).afterOperations operations
    (∀ fault, (machine.perform step).1 = .error fault ↔ machine.StepFaults fault) ∧
      ((∀ fault, ¬machine.StepFaults fault) →
        (machine.perform step).1 = .ok (Instruction.decode (UInt16.ofNat machine.word))) := by
  intro machine
  have wellFormed : machine.registers.WellFormed := afterOperations_wellFormed seed decoded
  have opcode : UInt16.ofNat machine.word = machine.opcode := by
    rw [← toNat_opcode]
    exact UInt16.ofNat_toNat
  constructor
  · intro fault
    rw [perform_step_eq_error_iff]
    exact stepFault?_eq_some_iff wellFormed
  · intro sound
    have passed : machine.stepFault? = none := by
      apply Option.eq_none_iff_forall_ne_some.mpr
      intro fault found
      exact sound fault ((stepFault?_eq_some_iff wellFormed).mp found)
    rw [perform_step, passed, opcode]
    rfl

/-- A program that draws two rows from the last byte of memory. -/
theorem sprite_over_last_byte_fails :
    let operations : List Operation :=
      [.load [0xaf, 0xff, 0xd0, 0x12], .move .tick]
    let machine := (powerOn 0).afterOperations operations
    (∀ operation ∈ operations, operation.Decoded) ∧
      machine.StepFaults (.invalidAddress 0x1000) ∧
      (machine.perform step).1 = .error (.invalidAddress 0x1000) := by
  intro operations machine
  have decoded : ∀ operation ∈ operations, operation.Decoded := by
    simp [operations, Operation.Decoded]
  have fetched : machine.registers.pc ≠ 0xfff := by decide +kernel
  have word : machine.word = 0xd000 + 0x100 * 0 + 0x10 * 1 + 2 := by decide +kernel
  have index : machine.registers.index.toNat = 0xfff := by decide +kernel
  have outside : 4096 < machine.registers.index.toNat + 2 := by
    rw [index]
    decide
  have faults : machine.StepFaults (.invalidAddress 0x1000) := by
    have reason := StepFaults.sprite fetched ⟨by decide, by decide⟩ (by decide) word outside
    rw [index] at reason
    exact reason
  exact ⟨decoded, faults, ((reachable_step_fails_iff 0 operations decoded).1 _).mpr faults⟩

end Machine

end Chip8
