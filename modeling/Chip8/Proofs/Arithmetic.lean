import Chip8.Proofs.Execution
/-!
The arithmetic of the registers over whole numbers. `AluOperation.Computes` relates the values of two
registers to the result and the flag of an operation by the equations that these solve, and every operation
solves its own in one way only. A register can be an operand, the place of the result and the flag all at
once: values are read before anything is written, and the result is written last.
-/

namespace Chip8

/-! ### Bits as bytes -/

theorem toUInt8_decide (condition : Prop) [Decidable condition] :
    (decide condition).toUInt8 = if condition then 1 else 0 := by
  simp only [Bool.toUInt8, decide_eq_true_eq]

theorem toNat_decide (condition : Prop) [Decidable condition] :
    (decide condition).toNat = if condition then 1 else 0 := by
  by_cases holds : condition
  · rw [decide_eq_true holds, if_pos holds, Bool.toNat_true]
  · rw [decide_eq_false holds, if_neg holds, Bool.toNat_false]

theorem and_one_eq (x : UInt8) : x &&& 1 = (decide (x.toNat % 2 = 1)).toUInt8 := by
  apply UInt8.toNat_inj.mp
  have one : (1 : UInt8).toNat = 1 := rfl
  rw [UInt8.toNat_and, one, Nat.and_one_is_mod, toUInt8_decide]
  by_cases odd : x.toNat % 2 = 1
  · rw [if_pos odd, odd, one]
  · rw [if_neg odd]
    exact Nat.mod_two_ne_one.mp odd

theorem shiftRight_seven_eq (x : UInt8) : x >>> 7 = (decide (128 ≤ x.toNat)).toUInt8 := by
  apply UInt8.toNat_inj.mp
  have shifted : (x >>> 7).toNat = x.toNat / 128 := by
    rw [UInt8.toNat_shiftRight]
    exact Nat.shiftRight_eq_div_pow x.toNat 7
  have bound := x.toNat_lt
  rw [shifted, toUInt8_decide]
  by_cases high : 128 ≤ x.toNat
  · rw [if_pos high]
    change x.toNat / 128 = 1
    omega
  · rw [if_neg high]
    change x.toNat / 128 = 0
    omega

/-! ### What an operation computes -/

namespace AluOperation

/-- The result and the flag that an operation has for two values. The flag of a difference says that it
is positive; it is not set where the values are equal, though nothing is borrowed there. -/
def Computes (operation : AluOperation) (x y result : UInt8) (flag : Option Bool) : Prop :=
  match operation, flag with
  | .assign, none => result.toNat = y.toNat
  | .or, none => result.toNat = x.toNat ||| y.toNat
  | .and, none => result.toNat = x.toNat &&& y.toNat
  | .xor, none => result.toNat = x.toNat ^^^ y.toNat
  | .add, some flag => result.toNat + 256 * flag.toNat = x.toNat + y.toNat
  | .subtract, some flag =>
      (result.toNat : Int) = ((x.toNat : Int) - y.toNat) % 256 ∧ (flag = true ↔ y.toNat < x.toNat)
  | .subtractFrom, some flag =>
      (result.toNat : Int) = ((y.toNat : Int) - x.toNat) % 256 ∧ (flag = true ↔ x.toNat < y.toNat)
  | .shiftRight, some flag => 2 * result.toNat + flag.toNat = x.toNat
  | .shiftLeft, some flag => result.toNat + 256 * flag.toNat = 2 * x.toNat
  | _, _ => False

theorem computes_apply (operation : AluOperation) (x y : UInt8) :
    ∃ flag : Option Bool, (operation.apply x y).2 = flag.map Bool.toUInt8 ∧
      operation.Computes x y (operation.apply x y).1 flag := by
  have boundX := x.toNat_lt
  have boundY := y.toNat_lt
  cases operation with
  | assign => exact ⟨none, rfl, rfl⟩
  | or => exact ⟨none, rfl, UInt8.toNat_or x y⟩
  | and => exact ⟨none, rfl, UInt8.toNat_and x y⟩
  | xor => exact ⟨none, rfl, UInt8.toNat_xor x y⟩
  | add =>
      refine ⟨some (decide (256 ≤ x.toNat + y.toNat)), ?_, ?_⟩
      · rw [Option.map_some, toUInt8_decide]
        rfl
      · change (x + y).toNat + 256 * (decide (256 ≤ x.toNat + y.toNat)).toNat = x.toNat + y.toNat
        rw [UInt8.toNat_add, toNat_decide]
        split <;> omega
  | subtract =>
      refine ⟨some (decide (y < x)), ?_, ?_, ?_⟩
      · rw [Option.map_some, toUInt8_decide]
        rfl
      · change ((x - y).toNat : Int) = _
        rw [UInt8.toNat_sub]
        omega
      · rw [decide_eq_true_eq, UInt8.lt_iff_toNat_lt]
  | shiftRight =>
      refine ⟨some (decide (x.toNat % 2 = 1)), congrArg some (and_one_eq x), ?_⟩
      have halved : (x >>> 1).toNat = x.toNat / 2 := by
        rw [UInt8.toNat_shiftRight]
        exact Nat.shiftRight_eq_div_pow x.toNat 1
      change 2 * (x >>> 1).toNat + (decide (x.toNat % 2 = 1)).toNat = x.toNat
      rw [halved, toNat_decide]
      split <;> omega
  | subtractFrom =>
      refine ⟨some (decide (x < y)), ?_, ?_, ?_⟩
      · rw [Option.map_some, toUInt8_decide]
        rfl
      · change ((y - x).toNat : Int) = _
        rw [UInt8.toNat_sub]
        omega
      · rw [decide_eq_true_eq, UInt8.lt_iff_toNat_lt]
  | shiftLeft =>
      refine ⟨some (decide (128 ≤ x.toNat)), congrArg some (shiftRight_seven_eq x), ?_⟩
      have doubled : (x <<< 1).toNat = x.toNat * 2 % 256 := by
        rw [UInt8.toNat_shiftLeft]
        exact congrArg (· % 256) (Nat.shiftLeft_eq x.toNat 1)
      change (x <<< 1).toNat + 256 * (decide (128 ≤ x.toNat)).toNat = 2 * x.toNat
      rw [doubled, toNat_decide]
      split <;> omega

namespace Computes

variable {x y result other : UInt8}

theorem outcome_eq {flag carry : Bool} (results : result.toNat = other.toNat)
    (flags : flag.toNat = carry.toNat) : result = other ∧ some flag = some carry := by
  have bits : ∀ flag carry : Bool, flag.toNat = carry.toNat → flag = carry := by decide
  exact ⟨UInt8.toNat_inj.mp results, congrArg some (bits flag carry flags)⟩

theorem unique {operation : AluOperation} {flag carry : Option Bool}
    (computes : operation.Computes x y result flag)
    (computesToo : operation.Computes x y other carry) : result = other ∧ flag = carry := by
  have bound := result.toNat_lt
  have boundToo := other.toNat_lt
  match operation, flag, carry, computes, computesToo with
  | .assign, none, none, computes, computesToo
  | .or, none, none, computes, computesToo
  | .and, none, none, computes, computesToo
  | .xor, none, none, computes, computesToo =>
      exact ⟨UInt8.toNat_inj.mp (Eq.trans computes (Eq.symm computesToo)), rfl⟩
  | .add, some flag, some carry, computes, computesToo
  | .shiftLeft, some flag, some carry, computes, computesToo
  | .shiftRight, some flag, some carry, computes, computesToo =>
      have flagBound := flag.toNat_lt
      have carryBound := carry.toNat_lt
      unfold Computes at computes computesToo
      exact outcome_eq (by omega) (by omega)
  | .subtract, some flag, some carry, computes, computesToo
  | .subtractFrom, some flag, some carry, computes, computesToo =>
      have same : flag = carry := Bool.eq_iff_iff.mpr (computes.2.trans computesToo.2.symm)
      exact outcome_eq (Int.ofNat_inj.mp (computes.1.trans computesToo.1.symm)) (congrArg _ same)

end Computes

end AluOperation

/-! ### What goes into the registers -/

namespace Registers

theorem value_putOutcome (registers : Registers) {x : Nat} (inside : x < 16)
    (outcome : UInt8 × Option UInt8) (other : Nat) :
    (registers.putOutcome x outcome).value other =
      if other = x then outcome.1
      else if other = flag then outcome.2.getD (registers.value other)
      else registers.value other := by
  obtain ⟨result, carry⟩ := outcome
  cases carry with
  | none =>
      change (registers.put x result).value other = _
      rw [value_put registers inside, Option.getD_none, ite_self]
  | some carry =>
      have flagInside : flag < 16 := Nat.lt_succ_self 15
      change ((registers.put flag carry).put x result).value other = _
      rw [value_put _ inside, value_put registers flagInside]
      rfl

end Registers

namespace Machine

variable (machine : Machine)

theorem value_update_alu (operation : AluOperation) {x : Nat} (inside : x < 16) (y other : Nat) :
    (machine.update (.alu operation x y)).registers.value other =
      let outcome := operation.apply (machine.registers.value x) (machine.registers.value y)
      if other = x then outcome.1
      else if other = Registers.flag then outcome.2.getD (machine.registers.value other)
      else machine.registers.value other :=
  Registers.value_putOutcome machine.registers inside _ other

theorem value_update_addByte {x : Nat} (inside : x < 16) (byte : UInt8) (other : Nat) :
    (machine.update (.addByte x byte)).registers.value other =
      if other = x then machine.registers.value x + byte else machine.registers.value other :=
  Registers.value_put machine.registers inside _ other

theorem value_update_addIndex (x other : Nat) :
    (machine.update (.addIndex x)).registers.value other =
      if other = Registers.flag then (if addressMask < machine.indexSum x then 1 else 0)
      else machine.registers.value other :=
  Registers.value_put { machine.registers with index := machine.indexSum x &&& addressMask }
    (Nat.lt_succ_self 15) _ other

theorem toNat_indexSum (x : Nat) (inMemory : machine.registers.index ≤ addressMask) :
    (machine.indexSum x).toNat =
      machine.registers.index.toNat + (machine.registers.value x).toNat := by
  have indexBound : machine.registers.index.toNat ≤ 0xfff := inMemory
  have valueBound := (machine.registers.value x).toNat_lt
  rw [indexSum, UInt16.toNat_add, UInt8.toNat_toUInt16]
  omega

theorem addIndex_adds {x : Nat} (inMemory : machine.registers.index ≤ addressMask) :
    let after := (machine.update (.addIndex x)).registers
    after.index.toNat + 4096 * (after.value Registers.flag).toNat =
      machine.registers.index.toNat + (machine.registers.value x).toNat := by
  intro after
  have indexBound : machine.registers.index.toNat ≤ 0xfff := inMemory
  have valueBound := (machine.registers.value x).toNat_lt
  have sum := machine.toNat_indexSum x inMemory
  have rest : after.index.toNat = (machine.indexSum x).toNat % 4096 :=
    Registers.toNat_and_addressMask (machine.indexSum x)
  have carry : after.value Registers.flag =
      if addressMask < machine.indexSum x then 1 else 0 := by
    rw [value_update_addIndex, if_pos rfl]
  rw [rest, carry]
  by_cases beyond : addressMask < machine.indexSum x
  · have large : 0xfff < (machine.indexSum x).toNat := beyond
    have set : (1 : UInt8).toNat = 1 := rfl
    rw [if_pos beyond, set]
    omega
  · have small : ¬0xfff < (machine.indexSum x).toNat := beyond
    have unset : (0 : UInt8).toNat = 0 := rfl
    rw [if_neg beyond, unset]
    omega

/-- The arithmetic of registers, which may be one and the same, and the flag among them. A register
operation leaves the one result that it computes, and its flag where the result has not gone over it. A byte
added to the index leaves the carry out of twelve bits, and a byte added to a register leaves none. -/
theorem arithmetic_with_flag {x y : Nat} (inside : x < 16 ∧ y < 16) :
    (∀ operation : AluOperation,
      let outcome := machine.perform (execute (.alu operation x y))
      let before := machine.registers.value
      let after := outcome.2.registers.value
      outcome.1 = .ok () ∧
        (∃ result carry, operation.Computes (before x) (before y) result carry) ∧
        ∀ result carry, operation.Computes (before x) (before y) result carry →
          after x = result ∧
            (x ≠ Registers.flag → ∀ bit ∈ carry, (after Registers.flag).toNat = bit.toNat) ∧
            ∀ other, other ≠ x → (other = Registers.flag → carry = none) →
              after other = before other) ∧
      (machine.registers.index ≤ addressMask →
        let outcome := machine.perform (execute (.addIndex x))
        let before := machine.registers
        let after := outcome.2.registers
        outcome.1 = .ok () ∧
          after.index.toNat + 4096 * (after.value Registers.flag).toNat =
            before.index.toNat + (before.value x).toNat ∧
          after.index ≤ addressMask ∧
          ∀ other, other ≠ Registers.flag → after.value other = before.value other) ∧
      ∀ byte : UInt8,
        let outcome := machine.perform (execute (.addByte x byte))
        let before := machine.registers.value
        let after := outcome.2.registers.value
        outcome.1 = .ok () ∧
          (after x).toNat = ((before x).toNat + byte.toNat) % 256 ∧
          ∀ other, other ≠ x → after other = before other := by
  refine ⟨fun operation => ?_, fun inMemory => ?_, fun byte => ?_⟩
  · have passed : machine.fault? (.alu operation x y) = none := Registers.fault?_pair_of_lt inside
    rw [perform_execute, passed]
    intro outcome before after
    have value : ∀ other, after other = _ := machine.value_update_alu operation inside.1 y
    obtain ⟨carry, written, computed⟩ := operation.computes_apply (before x) (before y)
    refine ⟨rfl, ⟨_, carry, computed⟩, ?_⟩
    intro result carry' computes
    obtain ⟨rfl, rfl⟩ := computes.unique computed
    refine ⟨?_, ?_, ?_⟩
    · rw [value, if_pos rfl]
    · intro apart bit found
      rw [value, if_neg apart.symm, if_pos rfl, written, Option.mem_def.mp found]
      cases bit <;> rfl
    · intro other apart unflagged
      rw [value, if_neg apart]
      by_cases isFlag : other = Registers.flag
      · rw [if_pos isFlag, written, unflagged isFlag]
        rfl
      · rw [if_neg isFlag]
  · have passed : machine.fault? (.addIndex x) = none := Registers.fault?_of_lt inside.1
    rw [perform_execute, passed]
    intro outcome before after
    have inBounds : after.index ≤ addressMask :=
      Registers.toNat_and_addressMask_le (machine.indexSum x)
    refine ⟨rfl, machine.addIndex_adds inMemory, inBounds, ?_⟩
    intro other apart
    exact (machine.value_update_addIndex x other).trans (if_neg apart)
  · have passed : machine.fault? (.addByte x byte) = none := Registers.fault?_of_lt inside.1
    rw [perform_execute, passed]
    intro outcome before after
    have value : ∀ other, after other = _ := machine.value_update_addByte inside.1 byte
    refine ⟨rfl, ?_, ?_⟩
    · rw [value, if_pos rfl, UInt8.toNat_add]
    · intro other apart
      rw [value, if_neg apart]

/-- The flag added to itself, to the index and to a byte, and taken from itself. -/
theorem flag_added_to_itself :
    let machine : Machine :=
      { powerOn 0 with
        registers := { Registers.initial with v := Vector.replicate 16 200, index := 0xfff } }
    let executed := fun instruction => (machine.perform (execute instruction)).2.registers
    (executed (.alu .add 15 15)).value 15 = 144 ∧
      (executed (.alu .subtract 15 15)).value 15 = 0 ∧
      (executed (.alu .shiftLeft 3 15)).value 15 = 1 ∧
      (executed (.addIndex 15)).index.toNat + 4096 * ((executed (.addIndex 15)).value 15).toNat =
        0xfff + 200 ∧
      ((executed (.addByte 15 100)).value 15).toNat = 44 := by
  intro machine executed
  obtain ⟨itself, index, byte⟩ :=
    arithmetic_with_flag machine (x := 15) (y := 15) (by decide)
  obtain ⟨shift, -⟩ := arithmetic_with_flag machine (x := 3) (y := 15) (by decide)
  have held : machine.registers.index.toNat = 0xfff ∧
      (machine.registers.value 15).toNat = 200 := ⟨rfl, rfl⟩
  have sum : AluOperation.Computes .add 200 200 144 (some true) := rfl
  have difference : AluOperation.Computes .subtract 200 200 0 (some false) := ⟨rfl, by decide⟩
  have doubled : AluOperation.Computes .shiftLeft 200 200 144 (some true) := rfl
  refine ⟨?_, ?_, ?_, ?_, ?_⟩
  · exact ((itself .add).2.2 144 (some true) sum).1
  · exact ((itself .subtract).2.2 0 (some false) difference).1
  · have carried := ((shift .shiftLeft).2.2 144 (some true) doubled).2.1 (by decide) true rfl
    exact UInt8.toNat_inj.mp carried
  · have indexed := (index (by decide)).2.1
    rw [held.1, held.2] at indexed
    exact indexed
  · have added := (byte 100).2.1
    rw [held.2] at added
    exact added

end Machine

end Chip8
