import Chip8.Text.Hex
/-!
The ways in which an operation of the machine can fail. A fault names its cause; the wording is
given in one place.
-/

namespace Chip8

inductive Bank where
  | register
  | stack
  | key
  deriving DecidableEq, Repr

inductive Fault where
  | invalidIndex (bank : Bank) (index : Nat)
  /-- The last address asked for lies outside memory. -/
  | invalidAddress (address : Nat)
  | stackOverflow (depth : Nat)
  | stackUnderflow
  deriving DecidableEq, Repr

def Bank.name : Bank → String
  | .register => "register"
  | .stack => "stack"
  | .key => "key"

def Fault.message : Fault → String
  | .invalidIndex bank index => s!"invalid {bank.name} index {index}"
  | .invalidAddress address => s!"memory access out of bounds at 0x{Text.hex 4 address}"
  | .stackOverflow depth => s!"call stack overflow (depth {depth})"
  | .stackUnderflow => "return with empty call stack"

end Chip8
