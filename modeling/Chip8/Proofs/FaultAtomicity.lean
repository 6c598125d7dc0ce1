import Chip8.Proofs.Execution
/-!
A fault undoes nothing and leaves nothing: apart from two instructions that decoding never produces,
an instruction that faults has not changed the machine. Steps, cycles and ticks inherit this.
-/

namespace Chip8

namespace Machine

theorem residue_cases (machine : Machine) (instruction : Instruction) :
    machine.residue instruction = machine ∨
      (∃ x mask, instruction = .random x mask ∧ 16 ≤ x ∧
        machine.residue instruction = machine.wordUsed) ∨
      (∃ x, instruction = .loadRange x ∧ 16 ≤ x ∧
        machine.registers.index.toNat + x + 1 ≤ memorySize ∧
        machine.residue instruction = machine.registersLoaded) := by
  cases instruction with
  | random x mask =>
      rcases Nat.lt_or_ge x 16 with inside | outside
      · exact Or.inl (if_pos inside)
      · exact Or.inr (Or.inl ⟨x, mask, rfl, outside, if_neg (Nat.not_lt.mpr outside)⟩)
  | loadRange x =>
      by_cases whole : x < 16 ∨ ¬Memory.Fits machine.registers.index (x + 1)
      · exact Or.inl (if_pos whole)
      · obtain ⟨outside, fits⟩ := not_or.mp whole
        exact Or.inr (Or.inr
          ⟨x, rfl, Nat.le_of_not_lt outside, Decidable.of_not_not fits, if_neg whole⟩)
  | _ => exact Or.inl rfl

theorem after_eq_residue {machine after : Machine} {instruction : Instruction} {fault : Fault}
    (faulted : machine.perform (execute instruction) = (.error fault, after)) :
    after = machine.residue instruction := by
  rw [perform_execute] at faulted
  cases found : machine.fault? instruction with
  | none =>
      rw [found] at faulted
      cases faulted
  | some reason =>
      rw [found] at faulted
      exact (Prod.mk.inj faulted).2.symm

theorem perform_random_outside (machine : Machine) {x : Nat} (mask : UInt8) (outside : 16 ≤ x) :
    machine.perform (execute (.random x mask)) =
      (.error (.invalidIndex .register x), machine.wordUsed) := by
  rw [perform_execute, fault?, Registers.fault?_outside outside, residue,
    if_neg (Nat.not_lt.mpr outside)]

theorem perform_loadRange_outside (machine : Machine) {x : Nat} (outside : 16 ≤ x)
    (fits : machine.registers.index.toNat + x + 1 ≤ memorySize) :
    machine.perform (execute (.loadRange x)) =
      (.error (.invalidIndex .register 16), machine.registersLoaded) := by
  have passed : Memory.fault? machine.registers.index (x + 1) = none := if_pos fits
  have partly : ¬(x < 16 ∨ ¬Memory.Fits machine.registers.index (x + 1)) :=
    not_or.mpr ⟨Nat.not_lt.mpr outside, not_not_intro fits⟩
  rw [perform_execute, fault?, passed, Registers.runFault?_outside outside, residue, if_neg partly]
  rfl

theorem step_fault {machine after : Machine} {fault : Fault}
    (faulted : machine.perform step = (.error fault, after)) :
    after = machine ∧ machine.stepped = machine := by
  rw [perform_step] at faulted
  unfold stepped
  cases found : machine.stepFault? with
  | none =>
      rw [found] at faulted
      cases faulted
  | some reason =>
      rw [found] at faulted
      exact ⟨(Prod.mk.inj faulted).2.symm, rfl⟩

theorem tick_fst (machine : Machine) : machine.tick.1 = machine.countDown.1.stepped :=
  machine.countDown.1.cycle_fst

/-- A fault leaves the machine as it was, but for two instructions with a register out of range: a
random byte is lost, or all registers are loaded. No decoded word means one of these. -/
theorem execute_fault_atomic (machine : Machine) :
    (∀ (instruction : Instruction) (fault : Fault) (after : Machine),
      machine.perform (execute instruction) = (.error fault, after) →
        after = machine ∨
          (∃ x mask, instruction = .random x mask ∧ 16 ≤ x ∧ after = machine.wordUsed) ∨
          (∃ x, instruction = .loadRange x ∧ 16 ≤ x ∧
            machine.registers.index.toNat + x + 1 ≤ memorySize ∧
            after = machine.registersLoaded)) ∧
      (∀ (x : Nat) (mask : UInt8), 16 ≤ x →
        machine.perform (execute (.random x mask)) =
          (.error (.invalidIndex .register x), machine.wordUsed)) ∧
      (∀ x : Nat, 16 ≤ x → machine.registers.index.toNat + x + 1 ≤ memorySize →
        machine.perform (execute (.loadRange x)) =
          (.error (.invalidIndex .register 16), machine.registersLoaded)) ∧
      (∀ (opcode : UInt16) (fault : Fault) (after : Machine),
        machine.perform (execute (Instruction.decode opcode)) = (.error fault, after) →
          after = machine) ∧
      (∀ (fault : Fault) (after : Machine),
        machine.perform step = (.error fault, after) →
          after = machine ∧ machine.cycle.1 = machine) ∧
      (∀ (fault : Fault) (after : Machine),
        machine.countDown.1.perform step = (.error fault, after) →
          machine.tick.1 = machine.countDown.1) := by
  refine ⟨?_, ?_, ?_, ?_, ?_, ?_⟩
  · intro instruction fault after faulted
    rw [after_eq_residue faulted]
    exact machine.residue_cases instruction
  · intro x mask outside
    exact machine.perform_random_outside mask outside
  · intro x outside fits
    exact machine.perform_loadRange_outside outside fits
  · intro opcode fault after faulted
    rw [after_eq_residue faulted]
    exact machine.residue_of_operandsInRange (Instruction.decode_operandsInRange opcode)
  · intro fault after faulted
    rw [cycle_fst]
    exact step_fault faulted
  · intro fault after faulted
    rw [tick_fst]
    exact (step_fault faulted).2

/-- On the last byte of memory no word can be fetched, and nothing can be returned from. -/
theorem faults_on_last_byte :
    let machine : Machine :=
      { powerOn 0 with registers := { Registers.initial with pc := 0xfff } }
    machine.perform (execute (Instruction.decode 0x00ee)) = (.error .stackUnderflow, machine) ∧
      machine.perform (execute (.random 16 0)) =
        (.error (.invalidIndex .register 16), machine.wordUsed) ∧
      machine.perform (execute (.loadRange 16)) =
        (.error (.invalidIndex .register 16), machine.registersLoaded) ∧
      machine.perform step = (.error (.invalidAddress 0x1000), machine) ∧
      machine.cycle.1 = machine ∧
      machine.tick.1 = machine.countDown.1 := by
  intro machine
  obtain ⟨_, random, load, decoded, step_keeps, tick_keeps⟩ := execute_fault_atomic machine
  have returned : machine.perform (execute (Instruction.decode 0x00ee)) =
      (.error .stackUnderflow, (machine.perform (execute (Instruction.decode 0x00ee))).2) := rfl
  have fetched : machine.perform step =
      (.error (.invalidAddress 0x1000), (machine.perform step).2) := rfl
  have fetchedLater : machine.countDown.1.perform step =
      (.error (.invalidAddress 0x1000), (machine.countDown.1.perform step).2) := rfl
  obtain ⟨unmoved, cycled⟩ := step_keeps _ _ fetched
  refine ⟨?_, random 16 0 (Nat.le_refl 16), load 16 (Nat.le_refl 16) (by decide), ?_, cycled,
    tick_keeps _ _ fetchedLater⟩
  · rw [decoded _ _ _ returned] at returned
    exact returned
  · rw [unmoved] at fetched
    exact fetched

end Machine

end Chip8
