import Chip8.Proofs.CallReturn
import Chip8.Proofs.Parked
import Chip8.Proofs.StepFaults
/-!
Where a program goes on. The word at the program counter says whether it is left behind, skips the word
behind it, goes somewhere else or is executed again; the registers and keys that it asks for decide the
rest.
-/

namespace Chip8

theorem Keypad.isDown_outside (keypad : Keypad) {key : Nat} (outside : 16 ≤ key) :
    keypad.isDown key = false := by
  rw [isDown, Vector.getElem?_eq_none outside]
  rfl

theorem Keypad.up_of_firstDown_eq_none {keypad : Keypad} {limit : Nat}
    (none : keypad.firstDown limit = none) : ∀ key < limit, keypad.isDown key = false := by
  intro key below
  rcases Nat.lt_or_ge key 16 with inside | outside
  · have listed : key ∈ List.range (min limit 16) :=
      List.mem_range.mpr (Nat.lt_min.mpr ⟨below, inside⟩)
    exact Bool.not_eq_true _ ▸ List.find?_eq_none.mp none key listed
  · exact keypad.isDown_outside outside

theorem Registers.toNat_skipIf_pc (registers : Registers) (condition : Bool) :
    (registers.skipIf condition).pc.toNat =
      (registers.pc.toNat + if condition then 4 else 2) % 4096 := by
  rw [skipIf, toNat_advance_pc]
  cases condition <;> rfl

namespace Machine

/-! ### What the word says -/

/-- The word at the program counter sends the program to an address. -/
inductive LeapsTo (machine : Machine) : Nat → Prop where
  | jump {target : Nat} (below : target < 0x1000) (word : machine.word = 0x1000 + target) :
      LeapsTo machine target
  | call {target : Nat} (below : target < 0x1000) (word : machine.word = 0x2000 + target)
      (room : machine.registers.depth < 16) : LeapsTo machine target
  | offset {base : Nat} (below : base < 0x1000) (word : machine.word = 0xb000 + base) :
      LeapsTo machine (((machine.registers.value 0).toNat + base) % 4096)
  | ret (word : machine.word = 0x00ee) (used : 0 < machine.registers.depth) :
      LeapsTo machine
        (((machine.registers.slot (machine.registers.depth - 1)).toNat + 2) % 4096)

inductive Skips (machine : Machine) : Prop where
  | byteEqual {x byte : Nat} (digit : x < 16) (bound : byte < 0x100)
      (word : machine.word = 0x3000 + 0x100 * x + byte)
      (equal : (machine.registers.value x).toNat = byte)
  | byteDifferent {x byte : Nat} (digit : x < 16) (bound : byte < 0x100)
      (word : machine.word = 0x4000 + 0x100 * x + byte)
      (different : (machine.registers.value x).toNat ≠ byte)
  | valuesEqual {x y free : Nat} (digits : x < 16 ∧ y < 16) (bound : free < 16)
      (word : machine.word = 0x5000 + 0x100 * x + 0x10 * y + free)
      (equal : machine.registers.value x = machine.registers.value y)
  | valuesDifferent {x y free : Nat} (digits : x < 16 ∧ y < 16) (bound : free < 16)
      (word : machine.word = 0x9000 + 0x100 * x + 0x10 * y + free)
      (different : machine.registers.value x ≠ machine.registers.value y)
  | keyDown {x : Nat} (digit : x < 16) (word : machine.word = 0xe000 + 0x100 * x + 0x9e)
      (isKey : (machine.registers.value x).toNat < 16)
      (down : machine.keypad.isDown (machine.registers.value x).toNat = true)
  | keyUp {x : Nat} (digit : x < 16) (word : machine.word = 0xe000 + 0x100 * x + 0xa1)
      (up : 16 ≤ (machine.registers.value x).toNat ∨
        machine.keypad.isDown (machine.registers.value x).toNat = false)

/-- The word at the program counter means nothing, waits for a key or faults. -/
inductive StaysPut (machine : Machine) : Prop where
  | unassigned
      (none : ∀ instruction : Instruction, instruction.Assigned → ¬instruction.EncodedBy machine.word)
  | waiting {x : Nat} (digit : x < 16) (word : machine.word = 0xf000 + 0x100 * x + 0x0a)
      (up : ∀ key < 15, machine.keypad.isDown key = false)
  | faulting {fault : Fault} (faults : (machine.perform step).1 = .error fault)

/-! ### What the step does -/

theorem exists_address {number : Nat} (below : number < 0x1000) :
    ∃ address : UInt16, address.toNat = number :=
  ⟨UInt16.ofNat number, UInt16.toNat_ofNat_of_lt' (Nat.lt_trans below (by decide))⟩

theorem exists_byte {number : Nat} (below : number < 0x100) : ∃ byte : UInt8, byte.toNat = number :=
  ⟨UInt8.ofNat number, UInt8.toNat_ofNat_of_lt' below⟩

variable {machine : Machine}

theorem registers_stepped_of_encodedBy (fetchable : machine.registers.pc.toNat ≤ 0xffe)
    (instruction : Instruction) (assigned : instruction.Assigned)
    (means : instruction.EncodedBy machine.word) (passed : machine.fault? instruction = none) :
    machine.stepped.registers = machine.registersAfter instruction := by
  have readable : Memory.Fits machine.registers.pc 2 := by
    change machine.registers.pc.toNat + 2 ≤ 4096
    omega
  have same : machine.current = instruction := current_of_encodedBy assigned means
  have found : machine.stepFault? = none :=
    machine.stepFault?_eq_none.mpr ⟨readable, by rw [same, passed]⟩
  rw [stepped, found, same]
  rfl

theorem LeapsTo.toNat_pc {target : Nat} (leaps : machine.LeapsTo target)
    (fetchable : machine.registers.pc.toNat ≤ 0xffe) (bounded : machine.registers.depth ≤ 16) :
    machine.stepped.registers.pc.toNat = target := by
  cases leaps with
  | jump below word =>
      obtain ⟨address, rfl⟩ := exists_address below
      rw [registers_stepped_of_encodedBy fetchable (.jump address) trivial ⟨below, word⟩ rfl,
        registersAfter, Registers.toNat_jump_pc, Nat.mod_eq_of_lt below]
  | call below word room =>
      obtain ⟨address, rfl⟩ := exists_address below
      have passed : machine.fault? (.call address) = none := if_neg (Nat.not_le.mpr room)
      rw [registers_stepped_of_encodedBy fetchable (.call address) trivial ⟨below, word⟩ passed,
        registersAfter, Registers.toNat_jump_pc, Nat.mod_eq_of_lt below]
  | offset below word =>
      obtain ⟨base, rfl⟩ := exists_address below
      rw [registers_stepped_of_encodedBy fetchable (.jumpFromV0 base) trivial ⟨below, word⟩ rfl,
        registersAfter, Registers.toNat_jump_pc, UInt16.toNat_add, UInt8.toNat_toUInt16]
      omega
  | ret word used =>
      have passed : machine.fault? .ret = none := fault?_ret_of_used (Nat.ne_of_gt used) bounded
      rw [registers_stepped_of_encodedBy fetchable .ret trivial word passed, registersAfter,
        Registers.toNat_advance_pc, Registers.toNat_jump_pc]
      exact Nat.mod_add_mod _ 4096 2

theorem toNat_pc_stepped_of_skipIf (fetchable : machine.registers.pc.toNat ≤ 0xffe)
    (instruction : Instruction) (assigned : instruction.Assigned)
    (means : instruction.EncodedBy machine.word) (passed : machine.fault? instruction = none)
    (moved : machine.registersAfter instruction = machine.registers.skipIf true) :
    machine.stepped.registers.pc.toNat = (machine.registers.pc.toNat + 4) % 4096 := by
  rw [registers_stepped_of_encodedBy fetchable instruction assigned means passed, moved,
    Registers.toNat_skipIf_pc, if_pos rfl]

theorem Skips.toNat_pc (skips : machine.Skips) (fetchable : machine.registers.pc.toNat ≤ 0xffe) :
    machine.stepped.registers.pc.toNat = (machine.registers.pc.toNat + 4) % 4096 := by
  cases skips with
  | @byteEqual x number digit bound word equal =>
      obtain ⟨byte, rfl⟩ := exists_byte bound
      apply toNat_pc_stepped_of_skipIf fetchable (.skipIfByte x byte) trivial ⟨digit, word⟩
        (Registers.fault?_of_lt digit)
      rw [registersAfter, beq_iff_eq.mpr (UInt8.toNat_inj.mp equal)]
  | @byteDifferent x number digit bound word different =>
      obtain ⟨byte, rfl⟩ := exists_byte bound
      apply toNat_pc_stepped_of_skipIf fetchable (.skipUnlessByte x byte) trivial ⟨digit, word⟩
        (Registers.fault?_of_lt digit)
      rw [registersAfter, bne_iff_ne.mpr fun equal => different (congrArg UInt8.toNat equal)]
  | @valuesEqual x y free digits bound word equal =>
      apply toNat_pc_stepped_of_skipIf fetchable (.skipIfEqual x y) trivial
        ⟨digits.1, digits.2, free, bound, word⟩ (Registers.fault?_pair_of_lt digits)
      rw [registersAfter, beq_iff_eq.mpr equal]
  | @valuesDifferent x y free digits bound word different =>
      apply toNat_pc_stepped_of_skipIf fetchable (.skipUnlessEqual x y) trivial
        ⟨digits.1, digits.2, free, bound, word⟩ (Registers.fault?_pair_of_lt digits)
      rw [registersAfter, bne_iff_ne.mpr different]
  | @keyDown x digit word isKey down =>
      apply toNat_pc_stepped_of_skipIf fetchable (.skipIfDown x) trivial ⟨digit, word⟩
        (Registers.fault?_of_lt digit)
      rw [registersAfter, down]
  | @keyUp x digit word up =>
      have notDown : machine.keypad.isDown (machine.registers.value x).toNat = false :=
        up.elim machine.keypad.isDown_outside id
      apply toNat_pc_stepped_of_skipIf fetchable (.skipIfUp x) trivial ⟨digit, word⟩
        (Registers.fault?_of_lt digit)
      rw [registersAfter, notDown]
      rfl

theorem StaysPut.stepped_eq (stays : machine.StaysPut) : machine.stepped = machine := by
  cases stays with
  | unassigned none =>
      have means := machine.current_encodedBy
      have meaningless : ¬machine.current.Assigned := fun assigned => none _ assigned means
      apply stepped_of_update
      cases read : machine.current with
      | unassigned opcode => rfl
      | _ =>
          rw [read] at meaningless
          exact absurd trivial meaningless
  | @waiting x digit word up =>
      have same : machine.current = .awaitKey x := current_of_encodedBy trivial ⟨digit, word⟩
      apply stepped_of_update
      rw [same]
      exact update_awaitKey up x
  | faulting faults => exact stepped_of_fault (perform_step_eq_error_iff.mp faults)

/-! ### All other words -/

theorem toNat_pc_of_skipIf_false (machine : Machine) {condition : Bool} (fails : condition ≠ true) :
    (machine.registers.skipIf condition).pc.toNat = (machine.registers.pc.toNat + 2) % 4096 := by
  rw [Registers.toNat_skipIf_pc, if_neg fails]

theorem toNat_pc_of_goesOn (noLeap : ∀ target, ¬machine.LeapsTo target) (noSkip : ¬machine.Skips)
    (moves : ¬machine.StaysPut) :
    machine.stepped.registers.pc.toNat = (machine.registers.pc.toNat + 2) % 4096 := by
  have passes : machine.stepFault? = none := by
    cases found : machine.stepFault? with
    | none => rfl
    | some fault => exact absurd (.faulting (perform_step_eq_error_iff.mpr found)) moves
  have moved : machine.stepped.registers = machine.registersAfter machine.current := by
    rw [stepped, passes]
    rfl
  obtain ⟨_, passed⟩ := machine.stepFault?_eq_none.mp passes
  have means := machine.current_encodedBy
  rw [moved]
  cases read : machine.current with
  | jump target =>
      rw [read] at means
      exact absurd (.jump means.1 means.2) (noLeap target.toNat)
  | call target =>
      rw [read] at means passed
      have room : machine.registers.depth < 16 := by
        apply Nat.lt_of_not_le
        intro full
        rw [fault?, if_pos full] at passed
        cases passed
      exact absurd (.call means.1 means.2 room) (noLeap target.toNat)
  | ret =>
      rw [read] at means passed
      have used : 0 < machine.registers.depth := by
        apply Nat.pos_of_ne_zero
        intro empty
        rw [fault?, if_pos empty] at passed
        cases passed
      exact absurd (.ret means used) (noLeap _)
  | jumpFromV0 base =>
      rw [read] at means
      exact absurd (.offset means.1 means.2) (noLeap _)
  | skipIfByte x byte =>
      rw [read] at means
      apply toNat_pc_of_skipIf_false
      intro equal
      exact noSkip (.byteEqual means.1 byte.toNat_lt means.2
        (congrArg UInt8.toNat (beq_iff_eq.mp equal)))
  | skipUnlessByte x byte =>
      rw [read] at means
      apply toNat_pc_of_skipIf_false
      intro different
      exact noSkip (.byteDifferent means.1 byte.toNat_lt means.2
        fun equal => bne_iff_ne.mp different (UInt8.toNat_inj.mp equal))
  | skipIfEqual x y =>
      rw [read] at means
      obtain ⟨xInside, yInside, free, bound, word⟩ := means
      apply toNat_pc_of_skipIf_false
      intro equal
      exact noSkip (.valuesEqual ⟨xInside, yInside⟩ bound word (beq_iff_eq.mp equal))
  | skipUnlessEqual x y =>
      rw [read] at means
      obtain ⟨xInside, yInside, free, bound, word⟩ := means
      apply toNat_pc_of_skipIf_false
      intro different
      exact noSkip (.valuesDifferent ⟨xInside, yInside⟩ bound word (bne_iff_ne.mp different))
  | skipIfDown x =>
      rw [read] at means
      apply toNat_pc_of_skipIf_false
      intro down
      have isKey : (machine.registers.value x).toNat < 16 := by
        apply Nat.lt_of_not_le
        intro outside
        rw [machine.keypad.isDown_outside outside] at down
        cases down
      exact noSkip (.keyDown means.1 means.2 isKey down)
  | skipIfUp x =>
      rw [read] at means
      apply toNat_pc_of_skipIf_false
      intro up
      exact noSkip (.keyUp means.1 means.2 (.inr ((Bool.not_eq_true' _).mp up)))
  | awaitKey x =>
      rw [read] at means
      cases key : machine.keypad.firstDown awaitedKeys with
      | none =>
          exact absurd (.waiting means.1 means.2 (Keypad.up_of_firstDown_eq_none key)) moves
      | some number =>
          rw [registersAfter, key]
          exact Registers.toNat_advance_pc _ 1
  | unassigned opcode =>
      refine absurd (.unassigned ?_) moves
      intro instruction assigned other
      have same := current_of_encodedBy assigned other
      rw [read] at same
      rw [← same] at assigned
      exact assigned
  | alu operation x y =>
      rw [registersAfter, Registers.putOutcome_frame]
      exact Registers.toNat_advance_pc _ 1
  | loadRange x =>
      rw [registersAfter, Registers.putRun_frame]
      exact Registers.toNat_advance_pc _ 1
  | clear | setByte | addByte | setIndex | random | draw | readDelay | setDelay | setSound | addIndex
  | pointAtGlyph | storeDecimal | storeRange => exact Registers.toNat_advance_pc _ 1

/-- Where a cycle of a machine that can be reached takes the program counter, if a word can be fetched there:
to the address that the word says, over the next word, nowhere, or to the next word in all other cases. -/
theorem reachable_cycle_goes_on (seed : UInt64) (operations : List Operation)
    (decoded : ∀ operation ∈ operations, operation.Decoded) :
    let machine := (powerOn seed).afterOperations operations
    let start := machine.registers.pc.toNat
    let next := machine.cycle.1.registers.pc.toNat
    start ≤ 0xffe →
      (∀ target, machine.LeapsTo target → next = target) ∧
        (machine.Skips → next = (start + 4) % 4096) ∧
        (machine.StaysPut → next = start) ∧
        ((∀ target, ¬machine.LeapsTo target) → ¬machine.Skips → ¬machine.StaysPut →
          next = (start + 2) % 4096) := by
  intro machine start next fetchable
  have wellFormed : machine.registers.WellFormed := afterOperations_wellFormed seed decoded
  have led : next = machine.stepped.registers.pc.toNat := by
    rw [← cycle_fst]
  rw [led]
  refine ⟨?_, ?_, ?_, ?_⟩
  · intro target leaps
    exact leaps.toNat_pc fetchable wellFormed.depth_le
  · intro skips
    exact skips.toNat_pc fetchable
  · intro stays
    rw [stays.stepped_eq]
  · intro noLeap noSkip moves
    exact toNat_pc_of_goesOn noLeap noSkip moves

/-- A skip over an empty word, and a jump by an offset that goes round the end of the address space. -/
theorem offset_goes_round_behind_skip :
    let load : Operation := .load [0x30, 0x00, 0x00, 0x00, 0x60, 0xff, 0xbf, 0x05]
    let loaded := (powerOn 0).afterOperations [load]
    let jumping := (powerOn 0).afterOperations [load, .move .tick, .move .cycle]
    loaded.Skips ∧ loaded.cycle.1.registers.pc.toNat = 0x204 ∧
      jumping.LeapsTo 0x004 ∧ jumping.cycle.1.registers.pc.toNat = 0x004 := by
  intro load loaded jumping
  have decoded : ∀ operation ∈ [load, .move .tick, .move .cycle], operation.Decoded := by
    simp [load, Operation.Decoded]
  have start : loaded.registers.pc.toNat = 0x200 ∧
      loaded.word = 0x3000 + 0x100 * 0 + 0x00 ∧ (loaded.registers.value 0).toNat = 0x00 := by
    decide +kernel
  have later : jumping.registers.pc.toNat = 0x206 ∧ jumping.word = 0xb000 + 0xf05 ∧
      (jumping.registers.value 0).toNat = 0xff := by
    decide +kernel
  have first := reachable_cycle_goes_on 0 [load] (by simp [load, Operation.Decoded])
  have second := reachable_cycle_goes_on 0 [load, .move .tick, .move .cycle] decoded
  dsimp only [loaded, jumping] at start later first second ⊢
  generalize (powerOn 0).afterOperations [load] = loaded at start first ⊢
  generalize (powerOn 0).afterOperations [load, .move .tick, .move .cycle] = jumping
    at later second ⊢
  obtain ⟨loadedPc, skipWord, skipValue⟩ := start
  obtain ⟨jumpingPc, offsetWord, offsetValue⟩ := later
  rw [loadedPc] at first
  rw [jumpingPc] at second
  have skips : loaded.Skips := .byteEqual (by decide) (by decide) skipWord skipValue
  have leaps : jumping.LeapsTo 0x004 := by
    have place := LeapsTo.offset (by decide) offsetWord
    rwa [offsetValue] at place
  exact ⟨skips, (first (by decide)).2.1 skips, leaps, (second (by decide)).1 _ leaps⟩

end Machine

end Chip8
