/-!
The instruction set as a closed type. An operand keeps the width of the place it goes to: addresses
and whole opcodes are 16-bit words, immediate values and row counts are bytes, and registers are
named by a number whose range is checked only when the register is used.
-/

namespace Chip8

inductive AluOperation where
  | assign
  | or
  | and
  | xor
  | add
  | subtract
  | shiftRight
  | subtractFrom
  | shiftLeft
  deriving DecidableEq, Repr, Inhabited

/-- One instruction. Beside each form stand the words that mean it, where `x`, `y`, `n`, `kk` and
`nnn` are digits that the operands are read from. -/
inductive Instruction where
  | clear -- 00E0
  | ret -- 00EE
  | jump (target : UInt16) -- 1nnn
  | call (target : UInt16) -- 2nnn
  | skipIfByte (x : Nat) (byte : UInt8) -- 3xkk
  | skipUnlessByte (x : Nat) (byte : UInt8) -- 4xkk
  | skipIfEqual (x y : Nat) -- 5xy_, the last digit is free
  | setByte (x : Nat) (byte : UInt8) -- 6xkk
  | addByte (x : Nat) (byte : UInt8) -- 7xkk
  | alu (operation : AluOperation) (x y : Nat) -- 8xy0 to 8xy7, 8xyE
  | skipUnlessEqual (x y : Nat) -- 9xy_, the last digit is free
  | setIndex (address : UInt16) -- Annn
  | jumpFromV0 (base : UInt16) -- Bnnn
  | random (x : Nat) (mask : UInt8) -- Cxkk
  | draw (x y : Nat) (rows : UInt8) -- Dxyn
  | skipIfDown (x : Nat) -- Ex9E
  | skipIfUp (x : Nat) -- ExA1
  | readDelay (x : Nat) -- Fx07
  | awaitKey (x : Nat) -- Fx0A
  | setDelay (x : Nat) -- Fx15
  | setSound (x : Nat) -- Fx18
  | addIndex (x : Nat) -- Fx1E
  | pointAtGlyph (x : Nat) -- Fx29
  | storeDecimal (x : Nat) -- Fx33
  | storeRange (x : Nat) -- Fx55
  | loadRange (x : Nat) -- Fx65
  | unassigned (opcode : UInt16) -- any other word
  deriving DecidableEq, Repr, Inhabited

end Chip8
