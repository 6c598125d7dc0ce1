import Chip8.Memory.Basic
import Chip8.Registers
/-!
What memory holds when a program starts: the glyphs of the sixteen hexadecimal digits from address
zero on, and the program from `programStart` to at most the end of memory.
-/

namespace Chip8

/-- Each digit is drawn as five rows, one byte a row. -/
def glyphRows : Nat := 5

def fontStart : UInt16 := 0

def font : List UInt8 :=
  [0xf0, 0x90, 0x90, 0x90, 0xf0,
   0x20, 0x60, 0x20, 0x20, 0x70,
   0xf0, 0x10, 0xf0, 0x80, 0xf0,
   0xf0, 0x10, 0xf0, 0x10, 0xf0,
   0x90, 0x90, 0xf0, 0x10, 0x10,
   0xf0, 0x80, 0xf0, 0x10, 0xf0,
   0xf0, 0x80, 0xf0, 0x90, 0xf0,
   0xf0, 0x10, 0x20, 0x40, 0x40,
   0xf0, 0x90, 0xf0, 0x90, 0xf0,
   0xf0, 0x90, 0xf0, 0x10, 0xf0,
   0xf0, 0x90, 0xf0, 0x90, 0x90,
   0xe0, 0x90, 0xe0, 0x90, 0xe0,
   0xf0, 0x80, 0x80, 0x80, 0xf0,
   0xe0, 0x90, 0x90, 0x90, 0xe0,
   0xf0, 0x80, 0xf0, 0x80, 0xf0,
   0xf0, 0x80, 0xf0, 0x80, 0x80]

def programCapacity : Nat := memorySize - programStart.toNat

inductive LoadError where
  | tooLarge (size : Nat)
  | unreadable
  deriving DecidableEq, Repr

def LoadError.message : LoadError → String
  | .tooLarge size =>
      s!"ROM is too large ({size} bytes), at most {programCapacity} bytes fit"
  | .unreadable => "failed to read ROM"

namespace Memory

def loadFont (memory : Memory) : Memory :=
  memory.overlay fontStart.toNat font

def initial : Memory := zero.loadFont

/-- Puts a program in place; what an earlier, longer one left behind it stays. The size is judged
before the first byte is written. -/
def loadProgram (memory : Memory) (program : List UInt8) : Except LoadError Unit × Memory :=
  if program.length ≤ programCapacity then
    (.ok (), memory.overlay programStart.toNat program)
  else (.error (.tooLarge program.length), memory)

theorem loadProgram_of_fits (memory : Memory) {program : List UInt8}
    (fits : program.length ≤ programCapacity) :
    memory.loadProgram program = (.ok (), memory.overlay programStart.toNat program) :=
  if_pos fits

theorem loadProgram_of_tooLarge (memory : Memory) {program : List UInt8}
    (tooLarge : programCapacity < program.length) :
    memory.loadProgram program = (.error (.tooLarge program.length), memory) :=
  if_neg (Nat.not_le_of_lt tooLarge)

end Memory

end Chip8
