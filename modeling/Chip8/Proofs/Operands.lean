import Chip8.Instruction.Decode
/-!
The operands that decoding can produce. Digits of the opcode name registers and row counts, so they
are below sixteen, and an address is made of the last three digits.
-/

namespace Chip8

namespace Instruction

/-- Every register number and every address has the width that an opcode gives it. -/
def OperandsInRange : Instruction → Prop
  | .jump target | .call target | .setIndex target | .jumpFromV0 target =>
      target.toNat ≤ 0xfff
  | .skipIfByte x _ | .skipUnlessByte x _ | .setByte x _ | .addByte x _ | .random x _
  | .skipIfDown x | .skipIfUp x | .readDelay x | .awaitKey x | .setDelay x | .setSound x
  | .addIndex x | .pointAtGlyph x | .storeDecimal x | .storeRange x | .loadRange x =>
      x < 16
  | .skipIfEqual x y | .alu _ x y | .skipUnlessEqual x y => x < 16 ∧ y < 16
  | .draw x y rows => x < 16 ∧ y < 16 ∧ rows.toNat < 16
  | .clear | .ret | .unassigned _ => True

end Instruction

namespace Opcode

theorem x_lt (opcode : UInt16) : x opcode < 16 := by
  unfold x
  rw [UInt16.toNat_and]
  exact Nat.lt_succ_of_le Nat.and_le_right

theorem y_lt (opcode : UInt16) : y opcode < 16 := by
  unfold y
  rw [UInt16.toNat_and]
  exact Nat.lt_succ_of_le Nat.and_le_right

theorem lastDigit_lt (opcode : UInt16) : (lastDigit opcode).toNat < 16 := by
  have small : (opcode &&& 0xf).toNat ≤ 15 := by
    rw [UInt16.toNat_and]
    exact Nat.and_le_right
  unfold lastDigit
  rw [UInt16.toNat_toUInt8]
  omega

theorem address_le (opcode : UInt16) : (address opcode).toNat ≤ 0xfff := by
  unfold address
  rw [UInt16.toNat_and]
  exact Nat.and_le_right

end Opcode

namespace Instruction

theorem decode_operandsInRange (opcode : UInt16) : (decode opcode).OperandsInRange := by
  have x := Opcode.x_lt opcode
  have y := Opcode.y_lt opcode
  have digit := Opcode.lastDigit_lt opcode
  have address := Opcode.address_le opcode
  unfold decode
  dsimp only
  split
  case h_1 => split <;> trivial
  case h_2 | h_3 | h_11 | h_12 => exact address
  case h_4 | h_5 | h_7 | h_8 | h_13 => exact x
  case h_6 | h_10 => exact ⟨x, y⟩
  case h_9 =>
      split
      · exact ⟨x, y⟩
      · trivial
  case h_14 => exact ⟨x, y, digit⟩
  case h_15 | h_16 => split <;> first | exact x | trivial
  case h_17 => trivial

end Instruction

end Chip8
