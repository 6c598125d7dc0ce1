import Chip8.Instruction.Decode
import Chip8.Machine.Action
/-!
What each instruction does. An instruction moves the program counter on by one unless it says
otherwise; a skip moves it on by two.
-/

namespace Chip8

def AluOperation.apply (operation : AluOperation) (x y : UInt8) : UInt8 × Option UInt8 :=
  match operation with
  | .assign => (y, none)
  | .or => (x ||| y, none)
  | .and => (x &&& y, none)
  | .xor => (x ^^^ y, none)
  | .add => (x + y, some (if 256 ≤ x.toNat + y.toNat then 1 else 0))
  | .subtract => (x - y, some (if y < x then 1 else 0))
  | .shiftRight => (x >>> 1, some (x &&& 1))
  | .subtractFrom => (y - x, some (if x < y then 1 else 0))
  | .shiftLeft => (x <<< 1, some (x >>> 7))

def decimalDigits (value : UInt8) : List UInt8 :=
  [value / 100, value / 10 % 10, value % 10]

/-- Keys from this one on do not end a wait. -/
def awaitedKeys : Nat := 15

open Machine.Action

namespace Machine

/-- The flag is written before the result, so the result stays where both go to one register. -/
def executeAlu (operation : AluOperation) (x y : Nat) : Action Unit := do
  let first ← readV x
  let second ← readV y
  let outcome := operation.apply first second
  match outcome.2 with
  | some flag => writeV Registers.flag flag
  | none => pure ()
  writeV x outcome.1

/-- The sprite is read before the screen changes, so a fault draws nothing. -/
def executeDraw (x y : Nat) (rows : UInt8) : Action Unit := do
  let column ← readV x
  let row ← readV y
  let sprite ← readIndexed rows.toNat
  let drawn := (← get).screen.drawSprite column.toNat row.toNat sprite
  modifyScreen fun _ => drawn.1
  writeV Registers.flag (if drawn.2 then 1 else 0)

def execute : Instruction → Action Unit
  | .clear => do
      modifyScreen fun _ => Screen.blank.setAllDue true
      advance 1
  | .ret => do
      jump (← pop)
      advance 1
  | .jump target => jump target
  | .call target => do
      push (← get).registers.pc
      jump target
  | .skipIfByte x byte => do
      skipIf ((← readV x) == byte)
  | .skipUnlessByte x byte => do
      skipIf ((← readV x) != byte)
  | .skipIfEqual x y => do
      let first ← readV x
      let second ← readV y
      skipIf (first == second)
  | .setByte x byte => do
      writeV x byte
      advance 1
  | .addByte x byte => do
      writeV x ((← readV x) + byte)
      advance 1
  | .alu operation x y => do
      executeAlu operation x y
      advance 1
  | .skipUnlessEqual x y => do
      let first ← readV x
      let second ← readV y
      skipIf (first != second)
  | .setIndex address => do
      setIndex address
      advance 1
  | .jumpFromV0 base => do
      jump ((← readV 0).toUInt16 + base)
  | .random x mask => do
      writeV x ((← randomByte) &&& mask)
      advance 1
  | .draw x y rows => do
      executeDraw x y rows
      advance 1
  | .skipIfDown x => do
      let key ← readV x
      skipIf ((← get).keypad.isDown key.toNat)
  | .skipIfUp x => do
      let key ← readV x
      skipIf (!(← get).keypad.isDown key.toNat)
  | .readDelay x => do
      writeV x (← get).registers.delay
      advance 1
  | .awaitKey x => do
      match (← get).keypad.firstDown awaitedKeys with
      | some key =>
          writeV x (UInt8.ofNat key)
          modifyScreen (·.setAllDue true)
          advance 1
      | none => pure ()
  | .setDelay x => do
      let value ← readV x
      setRegisters { (← get).registers with delay := value }
      advance 1
  | .setSound x => do
      let value ← readV x
      setRegisters { (← get).registers with sound := value }
      advance 1
  | .addIndex x => do
      let sum := (← get).registers.index + (← readV x).toUInt16
      setIndex (sum &&& addressMask)
      writeV Registers.flag (if addressMask < sum then 1 else 0)
      advance 1
  | .pointAtGlyph x => do
      setIndex (fontStart + (← readV x).toUInt16 * UInt16.ofNat glyphRows)
      advance 1
  | .storeDecimal x => do
      writeIndexed (decimalDigits (← readV x))
      advance 1
  | .storeRange x => do
      writeIndexed (← attempt ((← get).registers.readRun 0 (x + 1)))
      advance 1
  | .loadRange x => do
      writeRun 0 (← readIndexed (x + 1))
      advance 1
  | .unassigned _ => pure ()

end Machine

end Chip8
