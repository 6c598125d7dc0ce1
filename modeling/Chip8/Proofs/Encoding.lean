import Chip8.Proofs.Operands
/-!
The words that mean an instruction, as numbers. Decoding reads a word as an instruction exactly when
the word is one of those that mean it.
-/

namespace Chip8

namespace Opcode

variable (opcode : UInt16)

theorem toNat_family : (family opcode).toNat = opcode.toNat / 0x1000 := by
  rw [family, UInt16.toNat_shiftRight]
  exact Nat.shiftRight_eq_div_pow _ 12

theorem x_eq : x opcode = opcode.toNat / 0x100 % 16 := by
  rw [x, UInt16.toNat_and, UInt16.toNat_shiftRight]
  change (opcode.toNat >>> 8) &&& (2 ^ 4 - 1) = _
  rw [Nat.and_two_pow_sub_one_eq_mod, Nat.shiftRight_eq_div_pow]

theorem y_eq : y opcode = opcode.toNat / 0x10 % 16 := by
  rw [y, UInt16.toNat_and, UInt16.toNat_shiftRight]
  change (opcode.toNat >>> 4) &&& (2 ^ 4 - 1) = _
  rw [Nat.and_two_pow_sub_one_eq_mod, Nat.shiftRight_eq_div_pow]

theorem toNat_lastDigit : (lastDigit opcode).toNat = opcode.toNat % 16 := by
  have digit : (opcode &&& 0xf).toNat = opcode.toNat % 16 := by
    rw [UInt16.toNat_and]
    exact Nat.and_two_pow_sub_one_eq_mod _ 4
  rw [lastDigit, UInt16.toNat_toUInt8, digit]
  omega

theorem toNat_lowByte : (lowByte opcode).toNat = opcode.toNat % 0x100 := by
  have byte : (opcode &&& 0xff).toNat = opcode.toNat % 0x100 := by
    rw [UInt16.toNat_and]
    exact Nat.and_two_pow_sub_one_eq_mod _ 8
  rw [lowByte, UInt16.toNat_toUInt8, byte]
  omega

theorem toNat_address : (address opcode).toNat = opcode.toNat % 0x1000 := by
  rw [address, UInt16.toNat_and]
  exact Nat.and_two_pow_sub_one_eq_mod _ 12

/-! ### Digits by themselves -/

variable {opcode} {x y : Nat}

theorem digits_of_address (first : UInt16) {target : UInt16} (below : target.toNat < 0x1000)
    (word : opcode.toNat = 0x1000 * first.toNat + target.toNat) :
    family opcode = first ∧ address opcode = target := by
  constructor
  · apply UInt16.toNat_inj.mp
    rw [toNat_family]
    omega
  · apply UInt16.toNat_inj.mp
    rw [toNat_address]
    omega

theorem digits_of_byte (first : UInt16) (byte : UInt8) (inside : x < 16)
    (word : opcode.toNat = 0x1000 * first.toNat + 0x100 * x + byte.toNat) :
    family opcode = first ∧ Opcode.x opcode = x ∧ lowByte opcode = byte := by
  have low := byte.toNat_lt
  refine ⟨?_, ?_, ?_⟩
  · apply UInt16.toNat_inj.mp
    rw [toNat_family]
    omega
  · rw [x_eq]
    omega
  · apply UInt8.toNat_inj.mp
    rw [toNat_lowByte]
    omega

theorem digits_of_free (first : UInt16) {free : Nat} (xInside : x < 16) (yInside : y < 16)
    (bound : free < 16) (word : opcode.toNat = 0x1000 * first.toNat + 0x100 * x + 0x10 * y + free) :
    family opcode = first ∧ Opcode.x opcode = x ∧ Opcode.y opcode = y := by
  refine ⟨?_, ?_, ?_⟩
  · apply UInt16.toNat_inj.mp
    rw [toNat_family]
    omega
  · rw [x_eq]
    omega
  · rw [y_eq]
    omega

end Opcode

namespace AluOperation

def digit : AluOperation → UInt8
  | .assign => 0x0
  | .or => 0x1
  | .and => 0x2
  | .xor => 0x3
  | .add => 0x4
  | .subtract => 0x5
  | .shiftRight => 0x6
  | .subtractFrom => 0x7
  | .shiftLeft => 0xe

theorem ofDigit?_digit (operation : AluOperation) : ofDigit? operation.digit = some operation := by
  cases operation <;> rfl

theorem toNat_digit_lt (operation : AluOperation) : operation.digit.toNat < 16 := by
  cases operation <;> decide

theorem eq_digit_of_ofDigit? {digit : UInt8} {operation : AluOperation}
    (selected : ofDigit? digit = some operation) : digit = operation.digit := by
  unfold ofDigit? at selected
  split at selected <;> cases selected <;> rfl

end AluOperation

namespace Instruction

def Assigned : Instruction → Prop
  | .unassigned _ => False
  | _ => True

def EncodedBy (word : Nat) : Instruction → Prop
  | .clear => word = 0x00e0
  | .ret => word = 0x00ee
  | .jump target => target.toNat < 0x1000 ∧ word = 0x1000 + target.toNat
  | .call target => target.toNat < 0x1000 ∧ word = 0x2000 + target.toNat
  | .skipIfByte x byte => x < 16 ∧ word = 0x3000 + 0x100 * x + byte.toNat
  | .skipUnlessByte x byte => x < 16 ∧ word = 0x4000 + 0x100 * x + byte.toNat
  | .skipIfEqual x y =>
      x < 16 ∧ y < 16 ∧ ∃ free < 16, word = 0x5000 + 0x100 * x + 0x10 * y + free
  | .setByte x byte => x < 16 ∧ word = 0x6000 + 0x100 * x + byte.toNat
  | .addByte x byte => x < 16 ∧ word = 0x7000 + 0x100 * x + byte.toNat
  | .alu operation x y =>
      x < 16 ∧ y < 16 ∧ word = 0x8000 + 0x100 * x + 0x10 * y + operation.digit.toNat
  | .skipUnlessEqual x y =>
      x < 16 ∧ y < 16 ∧ ∃ free < 16, word = 0x9000 + 0x100 * x + 0x10 * y + free
  | .setIndex address => address.toNat < 0x1000 ∧ word = 0xa000 + address.toNat
  | .jumpFromV0 base => base.toNat < 0x1000 ∧ word = 0xb000 + base.toNat
  | .random x mask => x < 16 ∧ word = 0xc000 + 0x100 * x + mask.toNat
  | .draw x y rows =>
      x < 16 ∧ y < 16 ∧ rows.toNat < 16 ∧ word = 0xd000 + 0x100 * x + 0x10 * y + rows.toNat
  | .skipIfDown x => x < 16 ∧ word = 0xe000 + 0x100 * x + 0x9e
  | .skipIfUp x => x < 16 ∧ word = 0xe000 + 0x100 * x + 0xa1
  | .readDelay x => x < 16 ∧ word = 0xf000 + 0x100 * x + 0x07
  | .awaitKey x => x < 16 ∧ word = 0xf000 + 0x100 * x + 0x0a
  | .setDelay x => x < 16 ∧ word = 0xf000 + 0x100 * x + 0x15
  | .setSound x => x < 16 ∧ word = 0xf000 + 0x100 * x + 0x18
  | .addIndex x => x < 16 ∧ word = 0xf000 + 0x100 * x + 0x1e
  | .pointAtGlyph x => x < 16 ∧ word = 0xf000 + 0x100 * x + 0x29
  | .storeDecimal x => x < 16 ∧ word = 0xf000 + 0x100 * x + 0x33
  | .storeRange x => x < 16 ∧ word = 0xf000 + 0x100 * x + 0x55
  | .loadRange x => x < 16 ∧ word = 0xf000 + 0x100 * x + 0x65
  | .unassigned opcode => word = opcode.toNat

theorem decode_encodedBy (opcode : UInt16) : (decode opcode).EncodedBy opcode.toNat := by
  have family := Opcode.toNat_family opcode
  have x := Opcode.x_eq opcode
  have y := Opcode.y_eq opcode
  have digit := Opcode.toNat_lastDigit opcode
  have byte := Opcode.toNat_lowByte opcode
  have address := Opcode.toNat_address opcode
  unfold decode
  dsimp only
  -- The cases are numbered one above the family, and the last one is no family.
  split
  case h_1 => split <;> rfl
  case h_2 found | h_3 found | h_4 found | h_5 found | h_7 found | h_8 found | h_11 found
      | h_12 found | h_13 found | h_14 found =>
      simp only [found, UInt16.reduceToNat] at family
      unfold EncodedBy
      omega
  case h_6 found | h_10 found =>
      simp only [found, UInt16.reduceToNat] at family
      refine ⟨?_, ?_, opcode.toNat % 16, ?_, ?_⟩ <;> omega
  case h_9 found =>
      simp only [found, UInt16.reduceToNat] at family
      split
      case h_1 operation selected =>
          rw [AluOperation.eq_digit_of_ofDigit? selected] at digit
          unfold EncodedBy
          omega
      case h_2 => rfl
  case h_15 found =>
      simp only [found, UInt16.reduceToNat] at family
      split
      case h_1 low | h_2 low =>
          simp only [low, UInt8.reduceToNat] at byte
          unfold EncodedBy
          omega
      case h_3 => rfl
  case h_16 found =>
      simp only [found, UInt16.reduceToNat] at family
      split
      case h_1 low | h_2 low | h_3 low | h_4 low | h_5 low | h_6 low | h_7 low | h_8 low
          | h_9 low =>
          simp only [low, UInt8.reduceToNat] at byte
          unfold EncodedBy
          omega
      case h_10 => rfl
  case h_17 => rfl

theorem decode_of_encodedBy {opcode : UInt16} {instruction : Instruction}
    (assigned : instruction.Assigned)
    (means : instruction.EncodedBy opcode.toNat) : decode opcode = instruction := by
  cases instruction with
  | clear =>
      have word : opcode = 0x00e0 := UInt16.toNat_inj.mp means
      rw [word]
      rfl
  | ret =>
      have word : opcode = 0x00ee := UInt16.toNat_inj.mp means
      rw [word]
      rfl
  | jump target =>
      obtain ⟨family, address⟩ := Opcode.digits_of_address 0x1 means.1 means.2
      simp only [decode, family, address]
  | call target =>
      obtain ⟨family, address⟩ := Opcode.digits_of_address 0x2 means.1 means.2
      simp only [decode, family, address]
  | skipIfByte x byte =>
      obtain ⟨family, x, byte⟩ := Opcode.digits_of_byte 0x3 byte means.1 means.2
      simp only [decode, family, x, byte]
  | skipUnlessByte x byte =>
      obtain ⟨family, x, byte⟩ := Opcode.digits_of_byte 0x4 byte means.1 means.2
      simp only [decode, family, x, byte]
  | skipIfEqual x y =>
      obtain ⟨xInside, yInside, free, bound, word⟩ := means
      obtain ⟨family, x, y⟩ := Opcode.digits_of_free 0x5 xInside yInside bound word
      simp only [decode, family, x, y]
  | setByte x byte =>
      obtain ⟨family, x, byte⟩ := Opcode.digits_of_byte 0x6 byte means.1 means.2
      simp only [decode, family, x, byte]
  | addByte x byte =>
      obtain ⟨family, x, byte⟩ := Opcode.digits_of_byte 0x7 byte means.1 means.2
      simp only [decode, family, x, byte]
  | alu operation x y =>
      obtain ⟨xInside, yInside, word⟩ := means
      have bound : operation.digit.toNat < 16 := operation.toNat_digit_lt
      obtain ⟨family, x, y⟩ := Opcode.digits_of_free 0x8 xInside yInside bound word
      have last : Opcode.lastDigit opcode = operation.digit := by
        apply UInt8.toNat_inj.mp
        rw [Opcode.toNat_lastDigit]
        omega
      simp only [decode, family, x, y, last, AluOperation.ofDigit?_digit]
  | skipUnlessEqual x y =>
      obtain ⟨xInside, yInside, free, bound, word⟩ := means
      obtain ⟨family, x, y⟩ := Opcode.digits_of_free 0x9 xInside yInside bound word
      simp only [decode, family, x, y]
  | setIndex address =>
      obtain ⟨family, address⟩ := Opcode.digits_of_address 0xa means.1 means.2
      simp only [decode, family, address]
  | jumpFromV0 base =>
      obtain ⟨family, address⟩ := Opcode.digits_of_address 0xb means.1 means.2
      simp only [decode, family, address]
  | random x mask =>
      obtain ⟨family, x, byte⟩ := Opcode.digits_of_byte 0xc mask means.1 means.2
      simp only [decode, family, x, byte]
  | draw x y rows =>
      obtain ⟨xInside, yInside, bound, word⟩ := means
      obtain ⟨family, x, y⟩ := Opcode.digits_of_free 0xd xInside yInside bound word
      have last : Opcode.lastDigit opcode = rows := by
        apply UInt8.toNat_inj.mp
        rw [Opcode.toNat_lastDigit]
        omega
      simp only [decode, family, x, y, last]
  | skipIfDown x =>
      obtain ⟨family, x, byte⟩ := Opcode.digits_of_byte 0xe 0x9e means.1 means.2
      simp only [decode, family, x, byte]
  | skipIfUp x =>
      obtain ⟨family, x, byte⟩ := Opcode.digits_of_byte 0xe 0xa1 means.1 means.2
      simp only [decode, family, x, byte]
  | readDelay x =>
      obtain ⟨family, x, byte⟩ := Opcode.digits_of_byte 0xf 0x07 means.1 means.2
      simp only [decode, family, x, byte]
  | awaitKey x =>
      obtain ⟨family, x, byte⟩ := Opcode.digits_of_byte 0xf 0x0a means.1 means.2
      simp only [decode, family, x, byte]
  | setDelay x =>
      obtain ⟨family, x, byte⟩ := Opcode.digits_of_byte 0xf 0x15 means.1 means.2
      simp only [decode, family, x, byte]
  | setSound x =>
      obtain ⟨family, x, byte⟩ := Opcode.digits_of_byte 0xf 0x18 means.1 means.2
      simp only [decode, family, x, byte]
  | addIndex x =>
      obtain ⟨family, x, byte⟩ := Opcode.digits_of_byte 0xf 0x1e means.1 means.2
      simp only [decode, family, x, byte]
  | pointAtGlyph x =>
      obtain ⟨family, x, byte⟩ := Opcode.digits_of_byte 0xf 0x29 means.1 means.2
      simp only [decode, family, x, byte]
  | storeDecimal x =>
      obtain ⟨family, x, byte⟩ := Opcode.digits_of_byte 0xf 0x33 means.1 means.2
      simp only [decode, family, x, byte]
  | storeRange x =>
      obtain ⟨family, x, byte⟩ := Opcode.digits_of_byte 0xf 0x55 means.1 means.2
      simp only [decode, family, x, byte]
  | loadRange x =>
      obtain ⟨family, x, byte⟩ := Opcode.digits_of_byte 0xf 0x65 means.1 means.2
      simp only [decode, family, x, byte]
  | unassigned word => cases assigned

/-- Decoding is exact: an instruction is read from the words that mean it and from no others. -/
theorem decode_eq_iff {opcode : UInt16} {instruction : Instruction}
    (assigned : instruction.Assigned) :
    decode opcode = instruction ↔ instruction.EncodedBy opcode.toNat := by
  constructor
  · intro read
    rw [← read]
    exact decode_encodedBy opcode
  · exact decode_of_encodedBy assigned

end Instruction

end Chip8
