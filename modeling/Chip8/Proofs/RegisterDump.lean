import Chip8.Proofs.Effects
/-!
Registers stored to memory and loaded back. What happens in between may change all registers, the index
register among them, as long as it writes none of the bytes in which they stand.
-/

namespace Chip8

theorem decimalDigits_spec (byte : UInt8) :
    ∃ hundreds tens units : UInt8, decimalDigits byte = [hundreds, tens, units] ∧
      (hundreds.toNat ≤ 9 ∧ tens.toNat ≤ 9 ∧ units.toNat ≤ 9) ∧
      100 * hundreds.toNat + 10 * tens.toNat + units.toNat = byte.toNat := by
  have below := byte.toNat_lt
  have hundreds : (byte / 100).toNat = byte.toNat / 100 := UInt8.toNat_div byte 100
  have tens : (byte / 10 % 10).toNat = byte.toNat / 10 % 10 := by
    rw [UInt8.toNat_mod, UInt8.toNat_div]
    rfl
  have units : (byte % 10).toNat = byte.toNat % 10 := UInt8.toNat_mod byte 10
  refine ⟨_, _, _, rfl, ?_⟩
  rw [hundreds, tens, units]
  omega

namespace Machine

/-- Of the machine only bytes of this run, from the index register on, have been written, and the program
counter has moved on. -/
structure Writes (machine : Machine) (length : Nat) (stored : Machine) : Prop where
  outside_eq : ∀ address,
    ¬(machine.registers.index.toNat ≤ address ∧ address < machine.registers.index.toNat + length) →
      stored.memory.byteAt address = machine.memory.byteAt address
  rest_eq : stored =
    { machine with
      memory := stored.memory
      registers := machine.registers.advance 1 }

structure Loads (machine : Machine) (x : Nat) (loaded : Machine) : Prop where
  value_eq : ∀ number ≤ x,
    loaded.registers.value number = machine.memory.byteAt (machine.registers.index.toNat + number)
  others_eq : ∀ number, x < number →
    loaded.registers.value number = machine.registers.value number
  rest_eq : loaded =
    { machine with registers := { machine.registers.advance 1 with v := loaded.registers.v } }

variable {machine : Machine} {x : Nat}

/-! ### Storing and loading -/

theorem fault?_index {length : Nat} (fits : machine.registers.index.toNat + length ≤ 4096) :
    Memory.fault? machine.registers.index length = none :=
  if_pos fits

theorem writes_overlay {data : List UInt8} {length : Nat} (data_length : data.length = length)
    (fits : machine.registers.index.toNat + length ≤ 4096) :
    machine.Writes length
      { machine with
        memory := machine.memory.overlay machine.registers.index.toNat data
        registers := machine.registers.advance 1 } := by
  subst data_length
  refine ⟨fun address outside => ?_, rfl⟩
  exact (Memory.byteAt_overlay _ _ _ _ fits).trans (if_neg outside)

theorem byteAt_overlay_index {data : List UInt8} {length : Nat} (data_length : data.length = length)
    (fits : machine.registers.index.toNat + length ≤ 4096) {place : Nat} {byte : UInt8}
    (found : data[place]? = some byte) :
    (machine.memory.overlay machine.registers.index.toNat data).byteAt
      (machine.registers.index.toNat + place) = byte := by
  subst data_length
  have inside : place < data.length := (List.getElem?_eq_some_iff.mp found).1
  rw [Memory.byteAt_overlay _ _ _ _ fits, if_pos (by omega), Nat.add_sub_cancel_left, found]
  rfl

theorem storeRange_spec (inside : x < 16)
    (fits : machine.registers.index.toNat + (x + 1) ≤ 4096) :
    ∃ stored, machine.perform (execute (.storeRange x)) = (.ok (), stored) ∧
      machine.Writes (x + 1) stored ∧
      ∀ number ≤ x, stored.memory.byteAt (machine.registers.index.toNat + number) =
        machine.registers.value number := by
  have length : ((List.range (x + 1)).map machine.registers.value).length = x + 1 := by
    rw [List.length_map, List.length_range]
  have passed : machine.fault? (.storeRange x) = none := by
    rw [fault?, Registers.runFault?_of_lt inside, fault?_index fits]
    rfl
  refine ⟨machine.update (.storeRange x), by rw [perform_execute, passed], ?_, ?_⟩
  · exact writes_overlay length fits
  · intro number within
    refine byteAt_overlay_index length fits ?_
    rw [List.getElem?_map, List.getElem?_range (Nat.lt_succ_of_le within)]
    rfl

theorem loadRange_spec (inside : x < 16)
    (fits : machine.registers.index.toNat + (x + 1) ≤ 4096) :
    ∃ loaded, machine.perform (execute (.loadRange x)) = (.ok (), loaded) ∧ machine.Loads x loaded := by
  have passed : machine.fault? (.loadRange x) = none := by
    rw [fault?, fault?_index fits, Registers.runFault?_of_lt inside]
    rfl
  refine ⟨machine.update (.loadRange x), by rw [perform_execute, passed], ?_, ?_, ?_⟩
  · intro number within
    have written := Registers.value_putRun machine.registers 0
      (machine.memory.bytesFrom machine.registers.index.toNat (x + 1)) (Nat.lt_of_le_of_lt within inside)
    rw [Memory.length_bytesFrom, if_pos (by omega), Nat.sub_zero,
      Memory.getElem?_bytesFrom _ _ (Nat.lt_succ_of_le within)] at written
    exact written
  · intro number beyond
    exact value_registersAfter (Nat.not_le.mpr beyond)
  · change { machine with registers := machine.registersAfter (.loadRange x) } = _
    rw [registersAfter, Registers.putRun_frame]
    rfl

theorem storeDecimal_spec (inside : x < 16)
    (fits : machine.registers.index.toNat + 3 ≤ 4096) :
    ∃ stored, machine.perform (execute (.storeDecimal x)) = (.ok (), stored) ∧
      machine.Writes 3 stored ∧
      let digit := fun place =>
        (stored.memory.byteAt (machine.registers.index.toNat + place)).toNat
      (digit 0 ≤ 9 ∧ digit 1 ≤ 9 ∧ digit 2 ≤ 9) ∧
        100 * digit 0 + 10 * digit 1 + digit 2 = (machine.registers.value x).toNat := by
  have passed : machine.fault? (.storeDecimal x) = none := by
    rw [fault?, Registers.fault?_of_lt inside, fault?_index fits]
    rfl
  obtain ⟨hundreds, tens, units, digits, spec⟩ := decimalDigits_spec (machine.registers.value x)
  have written : machine.update (.storeDecimal x) =
      { machine with
        memory := machine.memory.overlay machine.registers.index.toNat [hundreds, tens, units]
        registers := machine.registers.advance 1 } := by
    rw [← digits]
    rfl
  refine ⟨machine.update (.storeDecimal x), by rw [perform_execute, passed], ?_, ?_⟩
  · rw [written]
    exact writes_overlay rfl fits
  · intro digit
    have first : digit 0 = hundreds.toNat := by
      dsimp only [digit]
      rw [written, byteAt_overlay_index rfl fits rfl]
    have second : digit 1 = tens.toNat := by
      dsimp only [digit]
      rw [written, byteAt_overlay_index rfl fits rfl]
    have third : digit 2 = units.toNat := by
      dsimp only [digit]
      rw [written, byteAt_overlay_index rfl fits rfl]
    rw [first, second, third]
    exact spec

theorem Loads.stores_back {loaded : Machine} (values : machine.Loads x loaded) (inside : x < 16)
    (fits : machine.registers.index.toNat + (x + 1) ≤ 4096) :
    ∃ restored, loaded.perform (execute (.storeRange x)) = (.ok (), restored) ∧
      restored.memory = machine.memory := by
  have index : loaded.registers.index = machine.registers.index := by
    rw [values.rest_eq]
    rfl
  have memory : loaded.memory = machine.memory := by
    rw [values.rest_eq]
  rw [← index] at fits
  obtain ⟨restored, stores, writes, dumped⟩ := storeRange_spec inside fits
  rw [index] at dumped
  refine ⟨restored, stores, Memory.ext_byteAt fun address _ => ?_⟩
  by_cases within : machine.registers.index.toNat ≤ address ∧
      address < machine.registers.index.toNat + (x + 1)
  · obtain ⟨number, rfl⟩ := Nat.exists_eq_add_of_le within.1
    have below : number ≤ x := by omega
    rw [dumped number below, values.value_eq number below]
  · rw [← index] at within
    rw [writes.outside_eq address within, memory]

/-! ### In between -/

/-- The operation writes no byte of this run. -/
def Spares (first length : Nat) (machine : Machine) : Operation → Prop
  | .load _ | .loadFrom _ | .reset => False
  | operation =>
      ∀ instruction ∈ machine.executed? operation, ∀ address, first ≤ address →
        address < first + length → ¬machine.MayChange (.byte address) instruction

def SparesAll (first length : Nat) (machine : Machine) : List Operation → Prop
  | [] => True
  | operation :: rest =>
      machine.Spares first length operation ∧
        (machine.afterOperation operation).SparesAll first length rest

theorem residue_memory (machine : Machine) (instruction : Instruction) :
    (machine.residue instruction).memory = machine.memory := by
  rcases machine.residue_cases instruction with
    left | ⟨_, _, _, _, left⟩ | ⟨_, _, _, _, left⟩
  · rw [left]
  · rw [left, wordUsed]
  · rw [left, registersLoaded]

variable {first length : Nat}

theorem byteAt_afterOperation {operation : Operation} (spares : machine.Spares first length operation)
    {address : Nat} (after : first ≤ address) (before : address < first + length) :
    (machine.afterOperation operation).memory.byteAt address = machine.memory.byteAt address := by
  cases operation with
  | move move =>
      exact byteAt_afterMove fun instruction executes => spares instruction executes address after before
  | execute instruction =>
      rw [afterOperation, perform_execute]
      cases passed : machine.fault? instruction with
      | none => exact byteAt_memoryAfter passed (spares instruction rfl address after before)
      | some fault => exact congrArg (Memory.byteAt · address) (machine.residue_memory instruction)
  | screen operation => rfl
  | load program | loadFrom source | reset => exact spares.elim

theorem byteAt_afterOperations {operations : List Operation}
    (spares : machine.SparesAll first length operations) {address : Nat} (after : first ≤ address)
    (before : address < first + length) :
    (machine.afterOperations operations).memory.byteAt address = machine.memory.byteAt address := by
  induction operations generalizing machine with
  | nil => rfl
  | cons operation rest ih =>
      exact (ih spares.2).trans (byteAt_afterOperation spares.1 after before)

/-- Stored registers are loaded back as they were, whatever has happened to them and to the index register
since, if nothing has written their bytes and the index register is set back. Bytes that are loaded and stored
again are as they were before. The digits of a register are stored as its decimal digits. In all cases nothing
else changes but the program counter. -/
theorem stored_registers_are_loaded_back (machine : Machine) {x : Nat} (inside : x < 16) :
    let first := machine.registers.index.toNat
    (first + (x + 1) ≤ 4096 →
      (∃ stored, machine.perform (execute (.storeRange x)) = (.ok (), stored) ∧
        machine.Writes (x + 1) stored ∧
        (∀ number ≤ x, stored.memory.byteAt (first + number) = machine.registers.value number) ∧
        ∀ (operations : List Operation) (back : Machine),
          stored.SparesAll first (x + 1) operations →
          back.memory = (stored.afterOperations operations).memory →
          back.registers.index = machine.registers.index →
          ∃ reloaded, back.perform (execute (.loadRange x)) = (.ok (), reloaded) ∧
            back.Loads x reloaded ∧
            ∀ number ≤ x, reloaded.registers.value number = machine.registers.value number) ∧
      ∃ loaded restored, machine.perform (execute (.loadRange x)) = (.ok (), loaded) ∧
        loaded.perform (execute (.storeRange x)) = (.ok (), restored) ∧
        restored.memory = machine.memory) ∧
    (first + 3 ≤ 4096 →
      ∃ stored, machine.perform (execute (.storeDecimal x)) = (.ok (), stored) ∧
        machine.Writes 3 stored ∧
        let digit := fun place => (stored.memory.byteAt (first + place)).toNat
        (digit 0 ≤ 9 ∧ digit 1 ≤ 9 ∧ digit 2 ≤ 9) ∧
          100 * digit 0 + 10 * digit 1 + digit 2 = (machine.registers.value x).toNat) := by
  intro first
  refine ⟨fun fits => ⟨?_, ?_⟩, fun fits => storeDecimal_spec inside fits⟩
  · obtain ⟨stored, stores, writes, dumped⟩ := storeRange_spec inside fits
    refine ⟨stored, stores, writes, dumped, ?_⟩
    intro operations back spares memory index
    have fitsBack : back.registers.index.toNat + (x + 1) ≤ 4096 := by
      rw [index]
      exact fits
    obtain ⟨reloaded, loads, loaded⟩ := loadRange_spec inside fitsBack
    refine ⟨reloaded, loads, loaded, fun number within => ?_⟩
    have kept := byteAt_afterOperations spares (Nat.le_add_right first number)
      (Nat.add_lt_add_left (Nat.lt_succ_of_le within) first)
    rw [loaded.value_eq number within, memory, index, kept, dumped number within]
  · obtain ⟨loaded, loads, values⟩ := loadRange_spec inside fits
    obtain ⟨restored, stores, same⟩ := values.stores_back inside fits
    exact ⟨loaded, restored, loads, stores, same⟩

/-- Three registers at the end of memory; in between all of them are stored elsewhere and one is changed. -/
theorem three_registers_at_end_are_loaded_back :
    let machine : Machine :=
      { powerOn 0 with
        registers := { (Registers.initial.put 0 7).put 2 254 with index := 0xffd } }
    let stored := machine.afterOperation (.execute (.storeRange 2))
    let operations : List Operation :=
      [.execute (.setByte 2 9), .execute (.setIndex 0x300), .execute (.storeRange 15),
        .execute (.setIndex 0xffd)]
    let back := stored.afterOperations operations
    machine.registers.index.toNat + 3 ≤ 4096 ∧ stored.SparesAll 0xffd 3 operations ∧
      back.registers.value 2 = 9 ∧
      (∃ reloaded, back.perform (execute (.loadRange 2)) = (.ok (), reloaded) ∧
        reloaded.registers.value 2 = 254) ∧
      ∃ decimal, machine.perform (execute (.storeDecimal 2)) = (.ok (), decimal) ∧
        100 * (decimal.memory.byteAt 0xffd).toNat + 10 * (decimal.memory.byteAt 0xffe).toNat +
          (decimal.memory.byteAt 0xfff).toNat = 254 := by
  intro machine stored operations back
  have fits : machine.registers.index.toNat + 3 ≤ 4096 := by decide
  have values : machine.registers.value 2 = 254 ∧ back.registers.value 2 = 9 ∧
      back.registers.index = machine.registers.index := by decide +kernel
  have elsewhere : ((stored.afterOperation (.execute (.setByte 2 9))).afterOperation
      (.execute (.setIndex 0x300))).registers.index.toNat = 0x300 := by decide +kernel
  have spares : stored.SparesAll 0xffd 3 operations := by
    refine ⟨?_, ?_, ?_, ?_, trivial⟩
    · rintro _ ⟨⟩ address after before
      exact not_false
    · rintro _ ⟨⟩ address after before
      exact not_false
    · rintro _ ⟨⟩ address after before ⟨_, last⟩
      rw [elsewhere] at last
      omega
    · rintro _ ⟨⟩ address after before
      exact not_false
  obtain ⟨store, decimal⟩ := stored_registers_are_loaded_back machine (by decide : 2 < 16)
  obtain ⟨⟨_, stores, _, _, loads⟩, _⟩ := store fits
  obtain ⟨decimal, digits, _, _, sum⟩ := decimal fits
  obtain rfl : stored = _ := congrArg Prod.snd stores
  obtain ⟨reloaded, loaded, _, same⟩ := loads operations back spares rfl values.2.2
  refine ⟨fits, spares, values.2.1, ⟨reloaded, loaded, ?_⟩, decimal, digits, ?_⟩
  · rw [same 2 (Nat.le_refl 2), values.1]
  · rw [values.1] at sum
    exact sum

end Machine

end Chip8
