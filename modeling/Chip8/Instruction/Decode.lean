import Chip8.Instruction.Basic
/-!
Reading a 16-bit word as an instruction. Every word has a reading: those outside the instruction
set become `Instruction.unassigned`, which carries the word itself.
-/

namespace Chip8

namespace Opcode

/-- The first of the four hexadecimal digits, which selects the family. -/
def family (opcode : UInt16) : UInt16 :=
  opcode >>> 12

def x (opcode : UInt16) : Nat :=
  ((opcode >>> 8) &&& 0xf).toNat

def y (opcode : UInt16) : Nat :=
  ((opcode >>> 4) &&& 0xf).toNat

def lastDigit (opcode : UInt16) : UInt8 :=
  (opcode &&& 0xf).toUInt8

def lowByte (opcode : UInt16) : UInt8 :=
  (opcode &&& 0xff).toUInt8

def address (opcode : UInt16) : UInt16 :=
  opcode &&& 0xfff

end Opcode

def AluOperation.ofDigit? (digit : UInt8) : Option AluOperation :=
  match digit with
  | 0x0 => some .assign
  | 0x1 => some .or
  | 0x2 => some .and
  | 0x3 => some .xor
  | 0x4 => some .add
  | 0x5 => some .subtract
  | 0x6 => some .shiftRight
  | 0x7 => some .subtractFrom
  | 0xe => some .shiftLeft
  | _ => none

namespace Instruction

def decode (opcode : UInt16) : Instruction :=
  let x := Opcode.x opcode
  let y := Opcode.y opcode
  let byte := Opcode.lowByte opcode
  let address := Opcode.address opcode
  match Opcode.family opcode with
  | 0x0 =>
      match opcode with
      | 0x00e0 => .clear
      | 0x00ee => .ret
      | _ => .unassigned opcode
  | 0x1 => .jump address
  | 0x2 => .call address
  | 0x3 => .skipIfByte x byte
  | 0x4 => .skipUnlessByte x byte
  | 0x5 => .skipIfEqual x y
  | 0x6 => .setByte x byte
  | 0x7 => .addByte x byte
  | 0x8 =>
      match AluOperation.ofDigit? (Opcode.lastDigit opcode) with
      | some operation => .alu operation x y
      | none => .unassigned opcode
  | 0x9 => .skipUnlessEqual x y
  | 0xa => .setIndex address
  | 0xb => .jumpFromV0 address
  | 0xc => .random x byte
  | 0xd => .draw x y (Opcode.lastDigit opcode)
  | 0xe =>
      match byte with
      | 0x9e => .skipIfDown x
      | 0xa1 => .skipIfUp x
      | _ => .unassigned opcode
  | 0xf =>
      match byte with
      | 0x07 => .readDelay x
      | 0x0a => .awaitKey x
      | 0x15 => .setDelay x
      | 0x18 => .setSound x
      | 0x1e => .addIndex x
      | 0x29 => .pointAtGlyph x
      | 0x33 => .storeDecimal x
      | 0x55 => .storeRange x
      | 0x65 => .loadRange x
      | _ => .unassigned opcode
  | _ => .unassigned opcode

end Instruction

end Chip8
