import Chip8.Machine.Execute
import Chip8.Proofs.RegisterFile
/-!
Arithmetic, shifts and accesses that have no result where the exact one would not fit its type, where
a shift is as wide as the type, or where a place does not exist. What execution computes outright is
computed here step by step, and the two are equal as soon as every step has a result.
-/

namespace Chip8

namespace Checked

def sum (first second : UInt16) : Option UInt16 :=
  if first.toNat + second.toNat < UInt16.size then some (first + second) else none

def product (first second : UInt16) : Option UInt16 :=
  if first.toNat * second.toNat < UInt16.size then some (first * second) else none

def increment (depth : Nat) : Option Nat :=
  if depth + 1 < UInt16.size then some (depth + 1) else none

def decrement (depth : Nat) : Option Nat :=
  if 1 ≤ depth then some (depth - 1) else none

/-- Bits may be lost; only the amount is checked. -/
def shiftByteLeft (byte : UInt8) (amount : Nat) : Option UInt8 :=
  if amount < 8 then some (byte <<< UInt8.ofNat amount) else none

def shiftByteRight (byte : UInt8) (amount : Nat) : Option UInt8 :=
  if amount < 8 then some (byte >>> UInt8.ofNat amount) else none

def shiftWordLeft (word : UInt16) (amount : Nat) : Option UInt16 :=
  if amount < 16 then some (word <<< UInt16.ofNat amount) else none

theorem sum_eq {first second : UInt16} (fits : first.toNat + second.toNat < 65536) :
    sum first second = some (first + second) :=
  if_pos fits

theorem product_eq {first second : UInt16} (fits : first.toNat * second.toNat < 65536) :
    product first second = some (first * second) :=
  if_pos fits

theorem increment_eq {depth : Nat} (fits : depth + 1 < 65536) :
    increment depth = some (depth + 1) :=
  if_pos fits

theorem decrement_eq {depth : Nat} (used : depth ≠ 0) : decrement depth = some (depth - 1) :=
  if_pos (Nat.pos_of_ne_zero used)

/-! ### Lists -/

def filter {α : Type} (test : α → Option Bool) : List α → Option (List α)
  | [] => some []
  | head :: rest => do
      let passes ← test head
      let later ← filter test rest
      return if passes then head :: later else later

def find {α : Type} (test : α → Option Bool) : List α → Option (Option α)
  | [] => some none
  | head :: rest => do
      if ← test head then return some head
      find test rest

theorem filter_eq {α : Type} {test : α → Option Bool} {plain : α → Bool} {members : List α}
    (agree : ∀ member ∈ members, test member = some (plain member)) :
    filter test members = some (members.filter plain) := by
  induction members with
  | nil => rfl
  | cons head rest ih =>
      have later := ih fun member listed => agree member (List.mem_cons_of_mem head listed)
      rw [filter, agree head List.mem_cons_self, later, List.filter_cons]
      rfl

theorem mapM_eq {α β : Type} {step : α → Option β} {plain : α → β} {members : List α}
    (agree : ∀ member ∈ members, step member = some (plain member)) :
    members.mapM step = some (members.map plain) := by
  induction members with
  | nil => rfl
  | cons head rest ih =>
      have later := ih fun member listed => agree member (List.mem_cons_of_mem head listed)
      rw [List.mapM_cons, agree head List.mem_cons_self, later]
      rfl

theorem find_eq {α : Type} {test : α → Option Bool} {plain : α → Bool} {members : List α}
    (agree : ∀ member ∈ members, test member = some (plain member)) :
    find test members = some (members.find? plain) := by
  induction members with
  | nil => rfl
  | cons head rest ih =>
      have later := ih fun member listed => agree member (List.mem_cons_of_mem head listed)
      rw [find, agree head List.mem_cons_self, later, List.find?_cons]
      cases plain head <;> rfl

end Checked

/-! ### Register operations -/

namespace AluOperation

/-- Sums and differences wrap on purpose; the shifts are checked. -/
def applyChecked (operation : AluOperation) (x y : UInt8) : Option (UInt8 × Option UInt8) :=
  match operation with
  | .shiftRight => do
      return (← Checked.shiftByteRight x 1, some (x &&& 1))
  | .shiftLeft => do
      return (← Checked.shiftByteLeft x 1, some (← Checked.shiftByteRight x 7))
  | _ => some (operation.apply x y)

theorem applyChecked_eq (operation : AluOperation) (x y : UInt8) :
    operation.applyChecked x y = some (operation.apply x y) := by
  cases operation <;> rfl

end AluOperation

namespace Registers

/-- Only the distance is checked; the program counter itself wraps on purpose. -/
def advanceChecked (registers : Registers) (count : UInt16) : Option Registers := do
  return registers.jump (registers.pc + (← Checked.product 2 count))

def pushChecked (registers : Registers) (address : UInt16) :
    Option (Except Fault Registers) :=
  if stackSlots ≤ registers.depth then some (.error (.stackOverflow registers.depth))
  else
    match registers.writeSlot registers.depth address with
    | .error fault => some (.error fault)
    | .ok written => do
        return .ok { written with depth := ← Checked.increment written.depth }

def popChecked (registers : Registers) : Option (Except Fault (UInt16 × Registers)) :=
  if registers.depth = 0 then some (.error .stackUnderflow)
  else do
    let top ← Checked.decrement registers.depth
    match registers.readSlot top with
    | .error fault => some (.error fault)
    | .ok address => return .ok (address, { registers with depth := top })

theorem advanceChecked_eq (registers : Registers) {count : UInt16} (small : count.toNat ≤ 2) :
    registers.advanceChecked count = some (registers.advance count) := by
  have fits : (2 : UInt16).toNat * count.toNat < 65536 := by
    have two : (2 : UInt16).toNat = 2 := rfl
    rw [two]
    omega
  rw [advanceChecked, Checked.product_eq fits]
  rfl

theorem pushChecked_eq (registers : Registers) (address : UInt16) :
    registers.pushChecked address = some (registers.push address) := by
  unfold pushChecked
  by_cases full : stackSlots ≤ registers.depth
  · rw [if_pos full, push_full registers full]
  · have room : registers.depth < 16 := Nat.lt_of_not_le full
    have written : registers.writeSlot registers.depth address =
        .ok { registers with
          stack := registers.stack.setIfInBounds registers.depth address } := if_pos room
    have counted : Checked.increment registers.depth = some (registers.depth + 1) :=
      Checked.increment_eq (by omega)
    rw [if_neg full, written, push_eq registers room]
    dsimp only
    rw [counted]
    rfl

theorem popChecked_eq (registers : Registers) :
    registers.popChecked = some registers.pop := by
  unfold popChecked pop
  by_cases empty : registers.depth = 0
  · rw [if_pos empty, if_pos empty]
  · rw [if_neg empty, if_neg empty, Checked.decrement_eq empty]
    rw [Option.bind_eq_bind, Option.bind_some]
    cases registers.readSlot (registers.depth - 1) <;> rfl

end Registers

/-! ### Memory -/

namespace Memory

/-- The run is read byte by byte, and a byte that does not exist has no value. -/
def sliceChecked (memory : Memory) (address : UInt16) (length : Nat) :
    Option (Except Fault (List UInt8)) :=
  if Fits address length then do
    return .ok (← (List.range length).mapM fun offset => memory.bytes[address.toNat + offset]?)
  else some (.error (outside address length))

def overlayChecked (memory : Memory) (address : Nat) : List UInt8 → Option Memory
  | [] => some memory
  | byte :: rest =>
      if address < memorySize then
        overlayChecked ⟨memory.bytes.setIfInBounds address byte⟩ (address + 1) rest
      else none

def writeSliceChecked (memory : Memory) (address : UInt16) (data : List UInt8) :
    Option (Except Fault Memory) :=
  if Fits address data.length then do
    return .ok (← memory.overlayChecked address.toNat data)
  else some (.error (outside address data.length))

theorem sliceChecked_eq (memory : Memory) (address : UInt16) (length : Nat) :
    memory.sliceChecked address length = some (memory.slice address length) := by
  unfold sliceChecked slice
  by_cases fits : Fits address length
  · have present : ∀ offset ∈ List.range length,
        memory.bytes[address.toNat + offset]? = some (memory.byteAt (address.toNat + offset)) := by
      intro offset listed
      have below := List.mem_range.mp listed
      have inside : address.toNat + offset < 4096 := by
        simp only [Fits, memorySize] at fits
        omega
      rw [byteAt, Vector.getElem?_eq_getElem inside]
      rfl
    rw [if_pos fits, if_pos fits, Checked.mapM_eq present]
    rfl
  · rw [if_neg fits, if_neg fits]

theorem overlayChecked_eq (memory : Memory) (address : Nat) (data : List UInt8)
    (fits : address + data.length ≤ memorySize) :
    memory.overlayChecked address data = some (memory.overlay address data) := by
  induction data generalizing memory address with
  | nil => rfl
  | cons byte rest ih =>
      rw [List.length_cons] at fits
      have here : address < memorySize := by omega
      rw [overlayChecked, if_pos here]
      exact ih _ (address + 1) (by omega)

theorem writeSliceChecked_eq (memory : Memory) (address : UInt16) (data : List UInt8) :
    memory.writeSliceChecked address data = some (memory.writeSlice address data) := by
  unfold writeSliceChecked writeSlice
  by_cases fits : Fits address data.length
  · rw [if_pos fits, if_pos fits, memory.overlayChecked_eq address.toNat data fits]
    rfl
  · rw [if_neg fits, if_neg fits]

end Memory

/-! ### Masks -/

namespace Checked

theorem and_twoPow_ne_zero {width : Nat} (value : BitVec width) {place : Nat}
    (inside : place < width) :
    (value &&& BitVec.twoPow width place != 0) = value.getLsbD place := by
  have nonzero : BitVec.twoPow width place ≠ 0 := by
    have size := BitVec.toNat_twoPow_of_lt inside
    intro zero
    rw [zero] at size
    exact absurd size (Nat.ne_of_lt (Nat.two_pow_pos place))
  rw [BitVec.and_twoPow]
  cases value.getLsbD place with
  | false => exact bne_self_eq_false _
  | true => exact bne_iff_ne.mpr nonzero

end Checked

namespace Keypad

def word (keypad : Keypad) : UInt16 :=
  ⟨(BitVec.ofBoolListLE keypad.down.toList).setWidth 16⟩

def isDownChecked (keypad : Keypad) (key : Nat) : Option Bool :=
  if key < 16 then do
    let mask ← Checked.shiftWordLeft 1 key
    return keypad.word &&& mask != 0
  else some false

def firstDownChecked (keypad : Keypad) (limit : Nat) : Option (Option Nat) :=
  Checked.find keypad.isDownChecked (List.range (min limit 16))

theorem mask_toBitVec {key : Nat} (inside : key < 16) :
    ((1 : UInt16) <<< UInt16.ofNat key).toBitVec = BitVec.twoPow 16 key := by
  have all : ∀ place : Fin 16,
      ((1 : UInt16) <<< UInt16.ofNat place.val).toBitVec = BitVec.twoPow 16 place.val := by
    decide
  exact all ⟨key, inside⟩

theorem getLsbD_word (keypad : Keypad) {key : Nat} (inside : key < 16) :
    keypad.word.toBitVec.getLsbD key = keypad.isDown key := by
  change ((BitVec.ofBoolListLE keypad.down.toList).setWidth 16).getLsbD key = _
  rw [BitVec.getLsbD_setWidth, BitVec.getLsbD_ofBoolListLE, decide_eq_true inside, Bool.true_and,
    isDown, List.getD_eq_getElem?_getD, Vector.getElem?_toList]

theorem isDownChecked_eq (keypad : Keypad) (key : Nat) :
    keypad.isDownChecked key = some (keypad.isDown key) := by
  unfold isDownChecked
  by_cases inside : key < 16
  · have mask : Checked.shiftWordLeft 1 key = some ((1 : UInt16) <<< UInt16.ofNat key) :=
      if_pos inside
    have bit := Checked.and_twoPow_ne_zero keypad.word.toBitVec inside
    rw [← mask_toBitVec inside, getLsbD_word keypad inside] at bit
    rw [if_pos inside, mask, ← bit]
    change some _ = some _
    congr 1
    rw [Bool.eq_iff_iff, bne_iff_ne, bne_iff_ne, ne_eq, ne_eq, ← UInt16.toBitVec_inj]
    rfl
  · rw [if_neg inside, isDown, Vector.getElem?_eq_none (Nat.le_of_not_lt inside)]
    rfl

theorem firstDownChecked_eq (keypad : Keypad) (limit : Nat) :
    keypad.firstDownChecked limit = some (keypad.firstDown limit) :=
  Checked.find_eq fun key _ => keypad.isDownChecked_eq key

end Keypad

/-! ### Sprites -/

def spriteBitChecked (row : UInt8) (column : Nat) : Option Bool := do
  let mask ← Checked.shiftByteRight 0x80 column
  return row &&& mask != 0

def spriteCellsChecked (x y : Nat) (rows : List UInt8) : Option (List (Nat × Nat)) := do
  let lines ← rows.zipIdx.mapM fun numbered => do
    let columns ← Checked.filter (spriteBitChecked numbered.1) (List.range 8)
    return columns.map fun column => (x + column, y + numbered.2)
  return lines.flatten

theorem spriteMask_toBitVec {column : Nat} (inside : column < 8) :
    ((0x80 : UInt8) >>> UInt8.ofNat column).toBitVec = BitVec.twoPow 8 (7 - column) := by
  have all : ∀ place : Fin 8,
      ((0x80 : UInt8) >>> UInt8.ofNat place.val).toBitVec = BitVec.twoPow 8 (7 - place.val) := by
    decide
  exact all ⟨column, inside⟩

theorem spriteBitChecked_eq (row : UInt8) {column : Nat} (inside : column < 8) :
    spriteBitChecked row column = some (spriteBit row column) := by
  have mask : Checked.shiftByteRight 0x80 column = some ((0x80 : UInt8) >>> UInt8.ofNat column) :=
    if_pos inside
  have place : 7 - column < 8 := by omega
  have bit := Checked.and_twoPow_ne_zero row.toBitVec place
  rw [← spriteMask_toBitVec inside] at bit
  have plain : spriteBit row column = row.toBitVec.getLsbD (7 - column) := by
    rw [spriteBit, decide_eq_true inside, Bool.true_and]
    rfl
  rw [spriteBitChecked, mask, plain, ← bit]
  change some _ = some _
  congr 1
  rw [Bool.eq_iff_iff, bne_iff_ne, bne_iff_ne, ne_eq, ne_eq, ← UInt8.toBitVec_inj]
  rfl

theorem spriteCellsChecked_eq (x y : Nat) (rows : List UInt8) :
    spriteCellsChecked x y rows = some (spriteCells x y rows) := by
  have line : ∀ numbered ∈ rows.zipIdx,
      (do
        let columns ← Checked.filter (spriteBitChecked numbered.1) (List.range 8)
        return columns.map fun column => (x + column, y + numbered.2)) =
      some (((List.range 8).filter (spriteBit numbered.1)).map fun column =>
        (x + column, y + numbered.2)) := by
    intro numbered _
    have columns : Checked.filter (spriteBitChecked numbered.1) (List.range 8) =
        some ((List.range 8).filter (spriteBit numbered.1)) :=
      Checked.filter_eq fun column listed =>
        spriteBitChecked_eq numbered.1 (List.mem_range.mp listed)
    rw [columns]
    rfl
  rw [spriteCellsChecked, Checked.mapM_eq line]
  rfl

end Chip8
