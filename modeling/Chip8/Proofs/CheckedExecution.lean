import Chip8.Proofs.CheckedArithmetic
import Chip8.Proofs.Execution
/-!
Execution with checked arithmetic. `Machine.executeChecked` goes through an instruction as
`Machine.execute` does, but every sum, product, shift and place in memory is checked, and one that
does not exist ends the run without any result. From a well-formed machine this never happens.
-/

namespace Chip8.Machine

/-- Actions that may also end without a result, which is neither a success nor a fault. -/
abbrev CheckedAction : Type → Type := ExceptT Fault (StateT Machine Option)

def performChecked {α : Type} (machine : Machine) (action : CheckedAction α) :
    Option (Except Fault α × Machine) :=
  StateT.run action.run machine

namespace CheckedAction

def lift {α : Type} (action : Action α) : CheckedAction α :=
  ExceptT.mk fun machine => some (machine.perform action)

instance : MonadLift Action CheckedAction where
  monadLift := lift

def calculate {α : Type} (result : Option α) : CheckedAction α :=
  ExceptT.mk fun machine => result.map fun value => (.ok value, machine)

def attempt {α : Type} (result : Option (Except Fault α)) : CheckedAction α := do
  Action.attempt (← calculate result)

def advance (count : UInt16) : CheckedAction Unit := do
  Action.setRegisters (← calculate ((← get).registers.advanceChecked count))

def skipIf (condition : Bool) : CheckedAction Unit :=
  advance (if condition then 2 else 1)

def push (address : UInt16) : CheckedAction Unit := do
  Action.setRegisters (← attempt ((← get).registers.pushChecked address))

def pop : CheckedAction UInt16 := do
  let popped ← attempt (← get).registers.popChecked
  Action.setRegisters popped.2
  return popped.1

def readIndexed (length : Nat) : CheckedAction (List UInt8) := do
  let machine ← get
  attempt (machine.memory.sliceChecked machine.registers.index length)

def writeIndexed (data : List UInt8) : CheckedAction Unit := do
  let machine ← get
  let memory ← attempt (machine.memory.writeSliceChecked machine.registers.index data)
  set { machine with memory := memory }

end CheckedAction

open Chip8.Machine.Action (readV writeV writeRun jump setIndex setRegisters modifyScreen randomByte)
open CheckedAction

def executeAluChecked (operation : AluOperation) (x y : Nat) : CheckedAction Unit := do
  let first ← readV x
  let second ← readV y
  let outcome ← calculate (operation.applyChecked first second)
  match outcome.2 with
  | some flag => writeV Registers.flag flag
  | none => pure ()
  writeV x outcome.1

def executeDrawChecked (x y : Nat) (rows : UInt8) : CheckedAction Unit := do
  let column ← readV x
  let row ← readV y
  let sprite ← readIndexed rows.toNat
  let cells ← calculate (spriteCellsChecked column.toNat row.toNat sprite)
  let drawn := (← get).screen.flip cells
  modifyScreen fun _ => drawn.1
  writeV Registers.flag (if drawn.2 then 1 else 0)

def executeChecked : Instruction → CheckedAction Unit
  | .clear => do
      modifyScreen fun _ => Screen.blank.setAllDue true
      advance 1
  | .ret => do
      jump (← pop)
      advance 1
  | .jump target => jump target
  | .call target => do
      push (← get).registers.pc
      jump target
  | .skipIfByte x byte => do
      skipIf ((← readV x) == byte)
  | .skipUnlessByte x byte => do
      skipIf ((← readV x) != byte)
  | .skipIfEqual x y => do
      let first ← readV x
      let second ← readV y
      skipIf (first == second)
  | .setByte x byte => do
      writeV x byte
      advance 1
  -- The sum of two bytes wraps on purpose.
  | .addByte x byte => do
      writeV x ((← readV x) + byte)
      advance 1
  | .alu operation x y => do
      executeAluChecked operation x y
      advance 1
  | .skipUnlessEqual x y => do
      let first ← readV x
      let second ← readV y
      skipIf (first != second)
  | .setIndex address => do
      setIndex address
      advance 1
  | .jumpFromV0 base => do
      jump (← calculate (Checked.sum (← readV 0).toUInt16 base))
  | .random x mask => do
      writeV x ((← randomByte) &&& mask)
      advance 1
  | .draw x y rows => do
      executeDrawChecked x y rows
      advance 1
  | .skipIfDown x => do
      let key ← readV x
      skipIf (← calculate ((← get).keypad.isDownChecked key.toNat))
  | .skipIfUp x => do
      let key ← readV x
      skipIf (!(← calculate ((← get).keypad.isDownChecked key.toNat)))
  | .readDelay x => do
      writeV x (← get).registers.delay
      advance 1
  | .awaitKey x => do
      match ← calculate ((← get).keypad.firstDownChecked awaitedKeys) with
      | some key =>
          writeV x (UInt8.ofNat key)
          modifyScreen (·.setAllDue true)
          advance 1
      | none => pure ()
  | .setDelay x => do
      let value ← readV x
      setRegisters { (← get).registers with delay := value }
      advance 1
  | .setSound x => do
      let value ← readV x
      setRegisters { (← get).registers with sound := value }
      advance 1
  | .addIndex x => do
      let index := (← get).registers.index
      let sum ← calculate (Checked.sum index (← readV x).toUInt16)
      setIndex (sum &&& addressMask)
      writeV Registers.flag (if addressMask < sum then 1 else 0)
      advance 1
  | .pointAtGlyph x => do
      let product ← calculate (Checked.product (← readV x).toUInt16 (UInt16.ofNat glyphRows))
      setIndex (← calculate (Checked.sum fontStart product))
      advance 1
  | .storeDecimal x => do
      writeIndexed (decimalDigits (← readV x))
      advance 1
  | .storeRange x => do
      writeIndexed (← Action.attempt ((← get).registers.readRun 0 (x + 1)))
      advance 1
  | .loadRange x => do
      writeRun 0 (← readIndexed (x + 1))
      advance 1
  | .unassigned _ => pure ()

/-! ### Agreement -/

/-- The checked action has a result on the machine, and it is the one of the plain action. -/
def Agrees {α : Type} (machine : Machine) (checked : CheckedAction α) (plain : Action α) : Prop :=
  machine.performChecked checked = some (machine.perform plain)

section

variable {α β : Type} {machine : Machine}

theorem performChecked_bind (machine : Machine) (first : CheckedAction α)
    (next : α → CheckedAction β) :
    machine.performChecked (first >>= next) =
      match machine.performChecked first with
      | none => none
      | some (.ok value, after) => after.performChecked (next value)
      | some (.error fault, after) => some (.error fault, after) := by
  unfold performChecked
  rw [ExceptT.run_bind, StateT.run_bind]
  cases StateT.run first.run machine with
  | none => rfl
  | some outcome =>
      obtain ⟨result, after⟩ := outcome
      cases result <;> rfl

theorem agrees_lift (action : Action α) : machine.Agrees (liftM action) action :=
  rfl

theorem agrees_pure (value : α) : machine.Agrees (pure value) (pure value) :=
  rfl

theorem agrees_bind {checked : CheckedAction α} {plain : Action α}
    {nextChecked : α → CheckedAction β} {nextPlain : α → Action β}
    (first : machine.Agrees checked plain)
    (next : ∀ (value : α) (after : Machine),
      after.Agrees (nextChecked value) (nextPlain value)) :
    machine.Agrees (checked >>= nextChecked) (plain >>= nextPlain) := by
  unfold Agrees at first ⊢
  rw [performChecked_bind, perform_bind, first]
  obtain ⟨result, after⟩ := machine.perform plain
  cases result with
  | error fault => rfl
  | ok value => exact next value after

theorem agrees_get_bind {nextChecked : Machine → CheckedAction β} {nextPlain : Machine → Action β}
    (next : machine.Agrees (nextChecked machine) (nextPlain machine)) :
    machine.Agrees (get >>= nextChecked) (get >>= nextPlain) :=
  next

theorem agrees_calculate_bind {result : Option α} {value : α}
    {nextChecked : α → CheckedAction β} {plain : Action β} (found : result = some value)
    (next : machine.Agrees (nextChecked value) plain) :
    machine.Agrees (calculate result >>= nextChecked) plain := by
  rw [found]
  exact next

theorem agrees_attempt {result : Option (Except Fault α)} {value : Except Fault α}
    (found : result = some value) :
    machine.Agrees (CheckedAction.attempt result) (Action.attempt value) :=
  agrees_calculate_bind found (agrees_lift _)

end

/-! ### Steps that calculate -/

section

variable {machine : Machine}

theorem agrees_advance {count : UInt16} (small : count.toNat ≤ 2) :
    machine.Agrees (CheckedAction.advance count) (Action.advance count) :=
  agrees_get_bind (agrees_calculate_bind (machine.registers.advanceChecked_eq small)
    (agrees_lift _))

theorem agrees_skipIf (condition : Bool) :
    machine.Agrees (CheckedAction.skipIf condition) (Action.skipIf condition) := by
  cases condition with
  | false => exact agrees_advance (by decide)
  | true => exact agrees_advance (by decide)

theorem agrees_push (address : UInt16) :
    machine.Agrees (CheckedAction.push address) (Action.push address) :=
  agrees_get_bind (agrees_bind (agrees_attempt (machine.registers.pushChecked_eq address))
    fun _ _ => agrees_lift _)

theorem agrees_pop : machine.Agrees CheckedAction.pop Action.pop :=
  agrees_get_bind (agrees_bind (agrees_attempt machine.registers.popChecked_eq)
    fun _ _ => agrees_lift _)

theorem agrees_readIndexed (length : Nat) :
    machine.Agrees (CheckedAction.readIndexed length) (Action.readIndexed length) :=
  agrees_get_bind (agrees_attempt (machine.memory.sliceChecked_eq _ length))

theorem agrees_writeIndexed (data : List UInt8) :
    machine.Agrees (CheckedAction.writeIndexed data) (Action.writeIndexed data) :=
  agrees_get_bind (agrees_bind (agrees_attempt (machine.memory.writeSliceChecked_eq _ data))
    fun _ _ => rfl)

theorem agrees_executeAlu (operation : AluOperation) (x y : Nat) :
    machine.Agrees (executeAluChecked operation x y) (executeAlu operation x y) := by
  refine agrees_bind (agrees_lift (readV x)) ?_
  intro first _
  refine agrees_bind (agrees_lift (readV y)) ?_
  intro second _
  refine agrees_calculate_bind (operation.applyChecked_eq first second) ?_
  obtain ⟨result, carry⟩ := operation.apply first second
  cases carry with
  | none => exact agrees_lift (writeV x result)
  | some flag => exact agrees_bind (agrees_lift _) fun _ _ => agrees_lift _

theorem agrees_executeDraw (x y : Nat) (rows : UInt8) :
    machine.Agrees (executeDrawChecked x y rows) (executeDraw x y rows) := by
  refine agrees_bind (agrees_lift (readV x)) ?_
  intro column _
  refine agrees_bind (agrees_lift (readV y)) ?_
  intro row _
  refine agrees_bind (agrees_readIndexed rows.toNat) ?_
  intro sprite _
  refine agrees_calculate_bind (spriteCellsChecked_eq column.toNat row.toNat sprite) ?_
  refine agrees_get_bind ?_
  exact agrees_bind (agrees_lift _) fun _ _ => agrees_lift _

end

/-! ### Every instruction -/

theorem index_sum_fits {index : UInt16} (bound : index.toNat ≤ 0xfff) (byte : UInt8) :
    index.toNat + byte.toUInt16.toNat < 65536 := by
  have small := byte.toNat_lt
  rw [UInt8.toNat_toUInt16]
  omega

theorem glyph_product_fits (byte : UInt8) :
    byte.toUInt16.toNat * (UInt16.ofNat glyphRows).toNat < 65536 := by
  have small := byte.toNat_lt
  have rows : (UInt16.ofNat glyphRows).toNat = 5 := rfl
  rw [UInt8.toNat_toUInt16, rows]
  omega

theorem glyph_sum_fits (offset : UInt16) : fontStart.toNat + offset.toNat < 65536 := by
  have start : fontStart.toNat = 0 := rfl
  have small := offset.toNat_lt
  rw [start]
  omega

/-- The bound on the index register is used once, where a byte is added to it, and the bound on an
address once, where it is added to a byte. -/
theorem agrees_execute {machine : Machine} {instruction : Instruction}
    (index_le : machine.registers.index.toNat ≤ 0xfff) (inRange : instruction.OperandsInRange) :
    machine.Agrees (executeChecked instruction) (execute instruction) := by
  have next : ∀ after : Machine, after.Agrees (advance 1) (Action.advance 1) :=
    fun _ => agrees_advance (by decide)
  cases instruction with
  | clear => exact agrees_bind (agrees_lift _) fun _ after => next after
  | ret =>
      refine agrees_bind agrees_pop ?_
      intro address _
      exact agrees_bind (agrees_lift _) fun _ after => next after
  | jump target => exact agrees_lift _
  | call target =>
      refine agrees_get_bind ?_
      exact agrees_bind (agrees_push _) fun _ _ => agrees_lift _
  | skipIfByte x byte | skipUnlessByte x byte =>
      exact agrees_bind (agrees_lift _) fun _ _ => agrees_skipIf _
  | skipIfEqual x y | skipUnlessEqual x y =>
      refine agrees_bind (agrees_lift _) ?_
      intro first _
      exact agrees_bind (agrees_lift _) fun _ _ => agrees_skipIf _
  | setByte x byte => exact agrees_bind (agrees_lift _) fun _ after => next after
  | addByte x byte =>
      refine agrees_bind (agrees_lift _) ?_
      intro value _
      exact agrees_bind (agrees_lift _) fun _ after => next after
  | alu operation x y =>
      exact agrees_bind (agrees_executeAlu operation x y) fun _ after => next after
  | setIndex address => exact agrees_bind (agrees_lift _) fun _ after => next after
  | jumpFromV0 base =>
      have bound : base.toNat ≤ 0xfff := inRange
      refine agrees_bind (agrees_lift _) ?_
      intro value _
      have fits := index_sum_fits bound value
      rw [Nat.add_comm] at fits
      exact agrees_calculate_bind (Checked.sum_eq fits) (agrees_lift _)
  | random x mask =>
      refine agrees_bind (agrees_lift _) ?_
      intro byte _
      exact agrees_bind (agrees_lift _) fun _ after => next after
  | draw x y rows =>
      exact agrees_bind (agrees_executeDraw x y rows) fun _ after => next after
  | skipIfDown x | skipIfUp x =>
      refine agrees_bind (agrees_lift _) ?_
      intro key after
      refine agrees_get_bind ?_
      exact agrees_calculate_bind (after.keypad.isDownChecked_eq key.toNat) (agrees_skipIf _)
  | readDelay x =>
      refine agrees_get_bind ?_
      exact agrees_bind (agrees_lift _) fun _ after => next after
  | awaitKey x =>
      refine agrees_get_bind ?_
      refine agrees_calculate_bind (machine.keypad.firstDownChecked_eq awaitedKeys) ?_
      cases machine.keypad.firstDown awaitedKeys with
      | none => exact agrees_lift _
      | some key =>
          refine agrees_bind (agrees_lift _) ?_
          intro _ _
          exact agrees_bind (agrees_lift _) fun _ after => next after
  | setDelay x | setSound x =>
      refine agrees_bind (agrees_lift _) ?_
      intro value after
      refine agrees_get_bind ?_
      exact agrees_bind (agrees_lift _) fun _ after => next after
  | addIndex x =>
      refine agrees_get_bind ?_
      refine agrees_bind (agrees_lift _) ?_
      intro value _
      refine agrees_calculate_bind (Checked.sum_eq (index_sum_fits index_le value)) ?_
      refine agrees_bind (agrees_lift _) ?_
      intro _ _
      exact agrees_bind (agrees_lift _) fun _ after => next after
  | pointAtGlyph x =>
      refine agrees_bind (agrees_lift _) ?_
      intro value _
      refine agrees_calculate_bind (Checked.product_eq (glyph_product_fits value)) ?_
      refine agrees_calculate_bind (Checked.sum_eq (glyph_sum_fits _)) ?_
      exact agrees_bind (agrees_lift _) fun _ after => next after
  | storeDecimal x =>
      refine agrees_bind (agrees_lift _) ?_
      intro value _
      exact agrees_bind (agrees_writeIndexed _) fun _ after => next after
  | storeRange x =>
      refine agrees_get_bind ?_
      refine agrees_bind (agrees_lift _) ?_
      intro values _
      exact agrees_bind (agrees_writeIndexed values) fun _ after => next after
  | loadRange x =>
      refine agrees_bind (agrees_readIndexed (x + 1)) ?_
      intro values _
      exact agrees_bind (agrees_lift _) fun _ after => next after
  | unassigned opcode => exact agrees_pure ()

/-- With any word in the index register, the sum may not exist. -/
example :
    let registers := { Registers.initial with v := Vector.replicate 16 1, index := 0xffff }
    ({ powerOn 0 with registers := registers } : Machine).performChecked
      (executeChecked (.addIndex 0)) = none := by
  rfl

end Chip8.Machine
