import Chip8.Instruction.Basic
import Chip8.Text.Hex
/-!
Instructions as a program listing shows them: a mnemonic and its operands, separated by commas.
Several instructions share a mnemonic and are told apart by the shape of their operands alone.
-/

namespace Chip8

inductive Operand where
  | register (number : Nat)
  | address (value : UInt16)
  | byte (value : UInt8)
  | count (value : UInt8)
  /-- A whole word, of four digits and without a mark. -/
  | word (value : UInt16)
  | index
  | indirect
  | delayTimer
  | soundTimer
  | key
  | glyph
  | decimal
  deriving DecidableEq, Repr

def Operand.characters : Operand → List Char
  | .register number => 'V' :: Text.upperHexDigits number
  | .address value => '0' :: 'x' :: Text.hexDigits 3 value.toNat
  | .byte value => '0' :: 'x' :: Text.hexDigits 2 value.toNat
  | .count value => Nat.toDigits 10 value.toNat
  | .word value => Text.hexDigits 4 value.toNat
  | .index => ['I']
  | .indirect => ['[', 'I', ']']
  | .delayTimer => ['D', 'T']
  | .soundTimer => ['S', 'T']
  | .key => ['K']
  | .glyph => ['F']
  | .decimal => ['B']

structure Listing where
  mnemonic : String
  operands : List Operand
  deriving DecidableEq, Repr

/-- The mnemonic, a space, and the operands with a comma and a space between them. -/
def Listing.characters (listing : Listing) : List Char :=
  match listing.operands with
  | [] => listing.mnemonic.toList
  | operands =>
      listing.mnemonic.toList ++
        ' ' :: [',', ' '].intercalate (operands.map Operand.characters)

def AluOperation.mnemonic : AluOperation → String
  | .assign => "LD"
  | .or => "OR"
  | .and => "AND"
  | .xor => "XOR"
  | .add => "ADD"
  | .subtract => "SUB"
  | .shiftRight => "SHR"
  | .subtractFrom => "SUBN"
  | .shiftLeft => "SHL"

namespace Instruction

def listing : Instruction → Listing
  | .clear => ⟨"CLS", []⟩
  | .ret => ⟨"RET", []⟩
  | .jump target => ⟨"JP", [.address target]⟩
  | .call target => ⟨"CALL", [.address target]⟩
  | .skipIfByte x byte => ⟨"SE", [.register x, .byte byte]⟩
  | .skipUnlessByte x byte => ⟨"SNE", [.register x, .byte byte]⟩
  | .skipIfEqual x y => ⟨"SE", [.register x, .register y]⟩
  | .setByte x byte => ⟨"LD", [.register x, .byte byte]⟩
  | .addByte x byte => ⟨"ADD", [.register x, .byte byte]⟩
  | .alu operation x y => ⟨operation.mnemonic, [.register x, .register y]⟩
  | .skipUnlessEqual x y => ⟨"SNE", [.register x, .register y]⟩
  | .setIndex address => ⟨"LD", [.index, .address address]⟩
  | .jumpFromV0 base => ⟨"JP", [.register 0, .address base]⟩
  | .random x mask => ⟨"RND", [.register x, .byte mask]⟩
  | .draw x y rows => ⟨"DRW", [.register x, .register y, .count rows]⟩
  | .skipIfDown x => ⟨"SKP", [.register x]⟩
  | .skipIfUp x => ⟨"SKNP", [.register x]⟩
  | .readDelay x => ⟨"LD", [.register x, .delayTimer]⟩
  | .awaitKey x => ⟨"LD", [.register x, .key]⟩
  | .setDelay x => ⟨"LD", [.delayTimer, .register x]⟩
  | .setSound x => ⟨"LD", [.soundTimer, .register x]⟩
  | .addIndex x => ⟨"ADD", [.index, .register x]⟩
  | .pointAtGlyph x => ⟨"LD", [.glyph, .register x]⟩
  | .storeDecimal x => ⟨"LD", [.decimal, .register x]⟩
  | .storeRange x => ⟨"LD", [.indirect, .register x]⟩
  | .loadRange x => ⟨"LD", [.register x, .indirect]⟩
  | .unassigned opcode => ⟨"???", [.word opcode]⟩

def text (instruction : Instruction) : String :=
  String.ofList instruction.listing.characters

end Instruction

end Chip8
