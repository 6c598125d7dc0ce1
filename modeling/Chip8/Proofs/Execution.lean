import Chip8.Machine.Tick
import Chip8.Proofs.Operands
import Chip8.Proofs.RegisterFile
/-!
Execution in two parts. `Machine.fault?` makes all checks of an instruction and changes nothing;
`Machine.update` makes all its changes and checks nothing. `Machine.perform_execute` identifies the
action `Machine.execute`, in which reads, checks and writes alternate, with the two: an instruction
either passes every check and leaves its update, or it faults and leaves `Machine.residue`.
-/

namespace Chip8

namespace Memory

def bytesFrom (memory : Memory) (address length : Nat) : List UInt8 :=
  (List.range length).map fun offset => memory.byteAt (address + offset)

def fault? (address : UInt16) (length : Nat) : Option Fault :=
  if Fits address length then none else some (outside address length)

theorem length_bytesFrom (memory : Memory) (address length : Nat) :
    (memory.bytesFrom address length).length = length := by
  rw [bytesFrom, List.length_map, List.length_range]

theorem getElem?_bytesFrom (memory : Memory) (address : Nat) {length place : Nat}
    (inside : place < length) :
    (memory.bytesFrom address length)[place]? = some (memory.byteAt (address + place)) := by
  rw [bytesFrom, List.getElem?_map, List.getElem?_range inside]
  rfl

end Memory

namespace Registers

def fault? (x : Nat) : Option Fault :=
  if x < 16 then none else some (.invalidIndex .register x)

theorem fault?_of_lt {x : Nat} (inside : x < 16) : fault? x = none :=
  if_pos inside

theorem fault?_outside {x : Nat} (outside : 16 ≤ x) :
    fault? x = some (.invalidIndex .register x) :=
  if_neg (Nat.not_lt.mpr outside)

theorem fault?_pair_of_lt {x y : Nat} (inside : x < 16 ∧ y < 16) :
    (fault? x <|> fault? y) = none := by
  rw [fault?_of_lt inside.1, fault?_of_lt inside.2]
  rfl

/-- The registers from zero to `x` are read or written in order, so the first one out of range is
number sixteen. -/
def runFault? (x : Nat) : Option Fault :=
  fault? (min x 16)

theorem runFault?_of_lt {x : Nat} (inside : x < 16) : runFault? x = none :=
  fault?_of_lt (by omega)

theorem runFault?_outside {x : Nat} (outside : 16 ≤ x) :
    runFault? x = some (.invalidIndex .register 16) := by
  rw [runFault?, Nat.min_eq_right outside, fault?_outside (Nat.le_refl 16)]

end Registers

def Instruction.Plain : Instruction → Prop
  | .ret | .call _ | .setIndex _ | .addIndex _ | .pointAtGlyph _ | .setDelay _ | .setSound _ => False
  | _ => True

namespace Machine

open Chip8.Machine.Action

/-! ### All checks -/

/-- The check that an instruction fails, the first one in the order in which they are made. -/
def fault? (machine : Machine) : Instruction → Option Fault
  | .clear | .jump _ | .setIndex _ | .jumpFromV0 _ | .unassigned _ => none
  | .ret =>
      if machine.registers.depth = 0 then some .stackUnderflow
      else if machine.registers.depth - 1 < 16 then none
      else some (.invalidIndex .stack (machine.registers.depth - 1))
  | .call _ =>
      if 16 ≤ machine.registers.depth then some (.stackOverflow machine.registers.depth)
      else none
  | .skipIfByte x _ | .skipUnlessByte x _ | .setByte x _ | .addByte x _ | .random x _
  | .skipIfDown x | .skipIfUp x | .readDelay x | .setDelay x | .setSound x | .addIndex x
  | .pointAtGlyph x => Registers.fault? x
  | .skipIfEqual x y | .alu _ x y | .skipUnlessEqual x y =>
      Registers.fault? x <|> Registers.fault? y
  | .awaitKey x =>
      if machine.keypad.firstDown awaitedKeys = none then none else Registers.fault? x
  | .draw x y rows =>
      Registers.fault? x <|> Registers.fault? y <|>
        Memory.fault? machine.registers.index rows.toNat
  | .storeDecimal x => Registers.fault? x <|> Memory.fault? machine.registers.index 3
  | .storeRange x => Registers.runFault? x <|> Memory.fault? machine.registers.index (x + 1)
  | .loadRange x => Memory.fault? machine.registers.index (x + 1) <|> Registers.runFault? x

/-! ### All changes -/

def drawn (machine : Machine) (x y : Nat) (rows : UInt8) : Screen × Bool :=
  machine.screen.drawSprite (machine.registers.value x).toNat (machine.registers.value y).toNat
    (machine.memory.bytesFrom machine.registers.index.toNat rows.toNat)

def indexSum (machine : Machine) (x : Nat) : UInt16 :=
  machine.registers.index + (machine.registers.value x).toUInt16

def registersAfter (machine : Machine) : Instruction → Registers
  | .clear => machine.registers.advance 1
  | .ret =>
      (machine.registers.popped.jump
        (machine.registers.slot (machine.registers.depth - 1))).advance 1
  | .jump target => machine.registers.jump target
  | .call target => (machine.registers.pushed machine.registers.pc).jump target
  | .skipIfByte x byte => machine.registers.skipIf (machine.registers.value x == byte)
  | .skipUnlessByte x byte => machine.registers.skipIf (machine.registers.value x != byte)
  | .skipIfEqual x y =>
      machine.registers.skipIf (machine.registers.value x == machine.registers.value y)
  | .setByte x byte => (machine.registers.put x byte).advance 1
  | .addByte x byte =>
      (machine.registers.put x (machine.registers.value x + byte)).advance 1
  | .alu operation x y =>
      (machine.registers.putOutcome x
        (operation.apply (machine.registers.value x) (machine.registers.value y))).advance 1
  | .skipUnlessEqual x y =>
      machine.registers.skipIf (machine.registers.value x != machine.registers.value y)
  | .setIndex address => { machine.registers with index := address }.advance 1
  | .jumpFromV0 base => machine.registers.jump ((machine.registers.value 0).toUInt16 + base)
  | .random x mask =>
      (machine.registers.put x (machine.random.head.toUInt8 &&& mask)).advance 1
  | .draw x y rows =>
      (machine.registers.put Registers.flag
        (if (machine.drawn x y rows).2 then 1 else 0)).advance 1
  | .skipIfDown x =>
      machine.registers.skipIf (machine.keypad.isDown (machine.registers.value x).toNat)
  | .skipIfUp x =>
      machine.registers.skipIf (!machine.keypad.isDown (machine.registers.value x).toNat)
  | .readDelay x => (machine.registers.put x machine.registers.delay).advance 1
  | .awaitKey x =>
      match machine.keypad.firstDown awaitedKeys with
      | some key => (machine.registers.put x (UInt8.ofNat key)).advance 1
      | none => machine.registers
  | .setDelay x =>
      { machine.registers with delay := machine.registers.value x }.advance 1
  | .setSound x =>
      { machine.registers with sound := machine.registers.value x }.advance 1
  | .addIndex x =>
      ({ machine.registers with index := machine.indexSum x &&& addressMask }.put Registers.flag
        (if addressMask < machine.indexSum x then 1 else 0)).advance 1
  | .pointAtGlyph x =>
      { machine.registers with
        index := fontStart +
          (machine.registers.value x).toUInt16 * UInt16.ofNat glyphRows }.advance 1
  | .storeDecimal _ => machine.registers.advance 1
  | .storeRange _ => machine.registers.advance 1
  | .loadRange x =>
      (machine.registers.putRun 0
        (machine.memory.bytesFrom machine.registers.index.toNat (x + 1))).advance 1
  | .unassigned _ => machine.registers

def memoryAfter (machine : Machine) : Instruction → Memory
  | .storeDecimal x =>
      machine.memory.overlay machine.registers.index.toNat
        (decimalDigits (machine.registers.value x))
  | .storeRange x =>
      machine.memory.overlay machine.registers.index.toNat
        ((List.range (x + 1)).map machine.registers.value)
  | _ => machine.memory

def screenAfter (machine : Machine) : Instruction → Screen
  | .clear => Screen.blank.setAllDue true
  | .draw x y rows => (machine.drawn x y rows).1
  | .awaitKey _ =>
      if machine.keypad.firstDown awaitedKeys = none then machine.screen
      else machine.screen.setAllDue true
  | _ => machine.screen

def randomAfter (machine : Machine) : Instruction → Random.Stream
  | .random _ _ => machine.random.tail
  | _ => machine.random

def update (machine : Machine) (instruction : Instruction) : Machine :=
  { registers := machine.registersAfter instruction
    memory := machine.memoryAfter instruction
    screen := machine.screenAfter instruction
    keypad := machine.keypad
    random := machine.randomAfter instruction }

def wordUsed (machine : Machine) : Machine :=
  { machine with random := machine.random.tail }

def registersLoaded (machine : Machine) : Machine :=
  { machine with
    registers := { machine.registers with
      v := Vector.ofFn fun register =>
        machine.memory.byteAt (machine.registers.index.toNat + register.val) } }

/-- The machine after an instruction that has failed a check. Two instructions that name a register
out of range have gone part of the way by then. -/
def residue (machine : Machine) : Instruction → Machine
  | .random x _ => if x < 16 then machine else machine.wordUsed
  | .loadRange x =>
      if x < 16 ∨ ¬Memory.Fits machine.registers.index (x + 1) then machine
      else machine.registersLoaded
  | _ => machine

theorem registersAfter_of_plain (machine : Machine) (instruction : Instruction)
    (plain : instruction.Plain) :
    machine.registersAfter instruction =
      { machine.registers with
        v := (machine.registersAfter instruction).v
        pc := (machine.registersAfter instruction).pc } := by
  cases instruction with
  | ret | call _ | setIndex _ | addIndex _ | pointAtGlyph _ | setDelay _ | setSound _ =>
      exact plain.elim
  | alu operation x y =>
      rw [registersAfter, Registers.putOutcome_frame]
      rfl
  | awaitKey x =>
      rw [registersAfter]
      cases machine.keypad.firstDown awaitedKeys <;> rfl
  | loadRange x =>
      rw [registersAfter, Registers.putRun_frame]
      rfl
  | _ => rfl

/-! ### The steps of an action -/

theorem perform_readV_bind {α : Type} (machine : Machine) (x : Nat) (next : UInt8 → Action α) :
    machine.perform (readV x >>= next) =
      match Registers.fault? x with
      | none => machine.perform (next (machine.registers.value x))
      | some fault => (.error fault, machine) := by
  rw [perform_bind, perform_readV]
  rcases Nat.lt_or_ge x 16 with inside | outside
  · rw [Registers.read_of_lt _ inside, Registers.fault?_of_lt inside]
  · rw [Registers.read_outside _ outside, Registers.fault?_outside outside]

theorem perform_writeV_bind {α : Type} (machine : Machine) (x : Nat) (byte : UInt8)
    (next : Unit → Action α) :
    machine.perform (writeV x byte >>= next) =
      match Registers.fault? x with
      | none =>
          ({ machine with registers := machine.registers.put x byte } : Machine).perform (next ())
      | some fault => (.error fault, machine) := by
  rw [perform_bind]
  rcases Nat.lt_or_ge x 16 with inside | outside
  · rw [perform_writeV machine inside, Registers.fault?_of_lt inside]
    rfl
  · rw [perform_writeV_outside machine outside, Registers.fault?_outside outside]

theorem perform_attempt_bind {α β : Type} (machine : Machine) (result : Except Fault α)
    (next : α → Action β) :
    machine.perform (attempt result >>= next) =
      match result with
      | .ok value => machine.perform (next value)
      | .error fault => (.error fault, machine) := by
  rw [perform_bind, perform_attempt]
  cases result <;> rfl

theorem perform_readIndexed_bind {α : Type} (machine : Machine) (length : Nat)
    (next : List UInt8 → Action α) :
    machine.perform (readIndexed length >>= next) =
      match Memory.fault? machine.registers.index length with
      | none =>
          machine.perform
            (next (machine.memory.bytesFrom machine.registers.index.toNat length))
      | some fault => (.error fault, machine) := by
  have read : machine.perform (readIndexed length) =
      (machine.memory.slice machine.registers.index length, machine) := by
    rw [readIndexed, perform_bind, perform_get]
    exact perform_attempt _ _
  rw [perform_bind, read]
  unfold Memory.slice Memory.fault?
  by_cases fits : Memory.Fits machine.registers.index length
  · rw [if_pos fits, if_pos fits]
    rfl
  · rw [if_neg fits, if_neg fits]

theorem perform_writeIndexed_bind {α : Type} (machine : Machine) (data : List UInt8)
    (next : Unit → Action α) :
    machine.perform (writeIndexed data >>= next) =
      match Memory.fault? machine.registers.index data.length with
      | none =>
          ({ machine with
            memory := machine.memory.overlay machine.registers.index.toNat data } :
              Machine).perform (next ())
      | some fault => (.error fault, machine) := by
  have written : machine.perform (writeIndexed data) =
      match machine.memory.writeSlice machine.registers.index data with
      | .ok memory => (.ok (), { machine with memory := memory })
      | .error fault => (.error fault, machine) := by
    rw [writeIndexed, perform_bind, perform_get]
    change machine.perform (attempt _ >>= fun memory => set { machine with memory := memory }) = _
    rw [perform_attempt_bind]
    cases machine.memory.writeSlice machine.registers.index data <;> rfl
  rw [perform_bind, written]
  unfold Memory.writeSlice Memory.fault?
  by_cases fits : Memory.Fits machine.registers.index data.length
  · rw [if_pos fits, if_pos fits]
  · rw [if_neg fits, if_neg fits]

theorem perform_writeRun (machine : Machine) (first : Nat) (bytes : List UInt8)
    (bound : first ≤ 16) :
    machine.perform (writeRun first bytes) =
      (if first + bytes.length ≤ 16 then .ok () else .error (.invalidIndex .register 16),
        { machine with registers := machine.registers.putRun first bytes }) := by
  induction bytes generalizing machine first with
  | nil =>
      rw [List.length_nil, Nat.add_zero, if_pos bound]
      rfl
  | cons byte rest ih =>
      rw [writeRun, perform_writeV_bind, List.length_cons]
      rcases Nat.lt_or_ge first 16 with here | beyond
      · have shifted : first + (rest.length + 1) = first + 1 + rest.length := by omega
        rw [Registers.fault?_of_lt here, shifted]
        exact ih _ (first + 1) here
      · have atEnd : first = 16 := by omega
        subst first
        have tooMany : ¬(16 + (rest.length + 1) ≤ 16) := by omega
        rw [Registers.fault?_outside (Nat.le_refl 16), if_neg tooMany,
          Registers.putRun_outside _ (Nat.le_refl 16)]

/-! ### Instructions with several checks -/

theorem perform_executeAlu_bind {α : Type} (machine : Machine) (operation : AluOperation)
    (x y : Nat) (next : Unit → Action α) :
    machine.perform (executeAlu operation x y >>= next) =
      match Registers.fault? x <|> Registers.fault? y with
      | none =>
          ({ machine with
            registers := machine.registers.putOutcome x
              (operation.apply (machine.registers.value x) (machine.registers.value y)) } :
                Machine).perform (next ())
      | some fault => (.error fault, machine) := by
  unfold executeAlu
  simp only [bind_assoc]
  rw [perform_readV_bind]
  cases checkX : Registers.fault? x with
  | some fault => rfl
  | none =>
      dsimp only
      rw [perform_readV_bind]
      cases Registers.fault? y with
      | some fault => rfl
      | none =>
          dsimp only
          obtain ⟨result, carry⟩ := operation.apply (machine.registers.value x)
            (machine.registers.value y)
          cases carry with
          | none =>
              change machine.perform (writeV x result >>= next) = _
              rw [perform_writeV_bind, checkX]
              rfl
          | some flag =>
              dsimp only
              rw [bind_assoc, perform_writeV_bind]
              change Machine.perform _ (writeV x result >>= next) = _
              rw [perform_writeV_bind, checkX]
              rfl

theorem perform_executeDraw_bind {α : Type} (machine : Machine) (x y : Nat) (rows : UInt8)
    (next : Unit → Action α) :
    machine.perform (executeDraw x y rows >>= next) =
      match machine.fault? (.draw x y rows) with
      | none =>
          ({ machine with
            screen := (machine.drawn x y rows).1
            registers := machine.registers.put Registers.flag
              (if (machine.drawn x y rows).2 then 1 else 0) } : Machine).perform (next ())
      | some fault => (.error fault, machine) := by
  unfold executeDraw fault?
  simp only [bind_assoc]
  rw [perform_readV_bind]
  cases Registers.fault? x with
  | some fault => rfl
  | none =>
      dsimp only
      rw [perform_readV_bind]
      cases Registers.fault? y with
      | some fault => rfl
      | none =>
          dsimp only
          rw [perform_readIndexed_bind]
          cases Memory.fault? machine.registers.index rows.toNat with
          | some fault => rfl
          | none =>
              change ({ machine with screen := (machine.drawn x y rows).1 } : Machine).perform
                (writeV Registers.flag (if (machine.drawn x y rows).2 then 1 else 0) >>= next) = _
              rw [perform_writeV_bind]
              rfl

theorem perform_ret (machine : Machine) :
    machine.perform (execute .ret) =
      match machine.fault? .ret with
      | none => (.ok (), machine.update .ret)
      | some fault => (.error fault, machine) := by
  have start : machine.perform (execute .ret) =
      match machine.registers.pop with
      | .ok popped =>
          (.ok (), { machine with registers := (popped.2.jump popped.1).advance 1 })
      | .error fault => (.error fault, machine) := by
    unfold execute pop
    simp only [bind_assoc]
    rw [perform_bind, perform_get]
    dsimp only
    rw [perform_attempt_bind]
    cases machine.registers.pop <;> rfl
  rw [start]
  unfold fault?
  by_cases empty : machine.registers.depth = 0
  · rw [Registers.pop_empty _ empty, if_pos empty]
  · rw [if_neg empty]
    by_cases bounded : machine.registers.depth - 1 < 16
    · rw [Registers.pop_of_le _ empty bounded, if_pos bounded]
      rfl
    · rw [Registers.pop_outside _ empty (Nat.le_of_not_lt bounded), if_neg bounded]

theorem perform_call (machine : Machine) (target : UInt16) :
    machine.perform (execute (.call target)) =
      match machine.fault? (.call target) with
      | none => (.ok (), machine.update (.call target))
      | some fault => (.error fault, machine) := by
  have start : machine.perform (execute (.call target)) =
      match machine.registers.push machine.registers.pc with
      | .ok pushed => (.ok (), { machine with registers := pushed.jump target })
      | .error fault => (.error fault, machine) := by
    unfold execute push
    simp only [bind_assoc]
    rw [perform_bind, perform_get]
    dsimp only
    rw [perform_bind, perform_get]
    dsimp only
    rw [perform_attempt_bind]
    cases machine.registers.push machine.registers.pc <;> rfl
  rw [start]
  unfold fault?
  by_cases full : 16 ≤ machine.registers.depth
  · rw [Registers.push_full _ full, if_pos full]
  · rw [Registers.push_eq _ (Nat.lt_of_not_le full), if_neg full]
    rfl

theorem perform_storeRange (machine : Machine) (x : Nat) :
    machine.perform (execute (.storeRange x)) =
      match machine.fault? (.storeRange x) with
      | none => (.ok (), machine.update (.storeRange x))
      | some fault => (.error fault, machine) := by
  rw [execute, perform_bind, perform_get]
  dsimp only
  rw [perform_attempt_bind, fault?]
  rcases Nat.lt_or_ge x 16 with inside | outside
  · have stored : ((List.range' 0 (x + 1)).map machine.registers.value).length = x + 1 := by
      rw [List.length_map, List.length_range']
    rw [Registers.readRun_of_le _ _ _ (by omega), Registers.runFault?_of_lt inside]
    dsimp only
    rw [perform_writeIndexed_bind, stored, ← List.range_eq_range']
    cases Memory.fault? machine.registers.index (x + 1) <;> rfl
  · rw [Registers.readRun_of_gt _ _ _ (by omega) (by omega), Registers.runFault?_outside outside]
    rfl

theorem perform_loadRange (machine : Machine) (x : Nat) :
    machine.perform (execute (.loadRange x)) =
      match machine.fault? (.loadRange x) with
      | none => (.ok (), machine.update (.loadRange x))
      | some fault => (.error fault, machine.residue (.loadRange x)) := by
  rw [execute, perform_readIndexed_bind, fault?, residue]
  by_cases fits : Memory.Fits machine.registers.index (x + 1)
  · have passed : Memory.fault? machine.registers.index (x + 1) = none := if_pos fits
    rw [passed]
    dsimp only
    rw [perform_bind, perform_writeRun _ _ _ (Nat.zero_le 16), Memory.length_bytesFrom,
      Nat.zero_add]
    rcases Nat.lt_or_ge x 16 with inside | outside
    · rw [if_pos (Nat.succ_le_of_lt inside), Registers.runFault?_of_lt inside]
      rfl
    · have partly : ¬(x < 16 ∨ ¬Memory.Fits machine.registers.index (x + 1)) := by
        rintro (below | unfit)
        · exact Nat.not_lt.mpr outside below
        · exact unfit fits
      have filled : (fun register : Fin 16 =>
          ((machine.memory.bytesFrom machine.registers.index.toNat (x + 1))[register.val]?).getD
            0) =
          fun register =>
            machine.memory.byteAt (machine.registers.index.toNat + register.val) := by
        funext register
        rw [Memory.getElem?_bytesFrom _ _ (by omega), Option.getD_some]
      rw [if_neg (by omega), Registers.runFault?_outside outside, if_neg partly,
        Registers.putRun_full _ (by rw [Memory.length_bytesFrom]; omega), filled]
      rfl
  · have refused : Memory.fault? machine.registers.index (x + 1) =
        some (Memory.outside machine.registers.index (x + 1)) := if_neg fits
    rw [refused, if_pos (Or.inr fits)]
    rfl

/-! ### Every instruction -/

/-- Execution is all checks, then all changes. -/
theorem perform_execute (machine : Machine) (instruction : Instruction) :
    machine.perform (execute instruction) =
      match machine.fault? instruction with
      | none => (.ok (), machine.update instruction)
      | some fault => (.error fault, machine.residue instruction) := by
  cases instruction with
  | clear => rfl
  | ret => exact machine.perform_ret
  | jump target => rfl
  | call target => exact machine.perform_call target
  | skipIfByte x byte =>
      rw [execute, perform_readV_bind, fault?]
      cases Registers.fault? x <;> rfl
  | skipUnlessByte x byte =>
      rw [execute, perform_readV_bind, fault?]
      cases Registers.fault? x <;> rfl
  | skipIfEqual x y =>
      rw [execute, perform_readV_bind, fault?]
      cases Registers.fault? x with
      | some fault => rfl
      | none =>
          dsimp only
          rw [perform_readV_bind]
          cases Registers.fault? y <;> rfl
  | setByte x byte =>
      rw [execute, perform_writeV_bind, fault?]
      cases Registers.fault? x <;> rfl
  | addByte x byte =>
      rw [execute, perform_readV_bind, fault?]
      cases check : Registers.fault? x with
      | some fault => rfl
      | none =>
          dsimp only
          rw [perform_writeV_bind, check]
          rfl
  | alu operation x y =>
      rw [execute, perform_executeAlu_bind, fault?]
      cases (Registers.fault? x <|> Registers.fault? y) <;> rfl
  | skipUnlessEqual x y =>
      rw [execute, perform_readV_bind, fault?]
      cases Registers.fault? x with
      | some fault => rfl
      | none =>
          dsimp only
          rw [perform_readV_bind]
          cases Registers.fault? y <;> rfl
  | setIndex address => rfl
  | jumpFromV0 base =>
      rw [execute, perform_readV_bind, Registers.fault?_of_lt (Nat.zero_lt_succ 15)]
      rfl
  | random x mask =>
      have used : machine.perform randomByte =
          (.ok machine.random.head.toUInt8, machine.wordUsed) := rfl
      rw [execute, perform_bind, used]
      dsimp only
      rw [perform_writeV_bind, fault?, residue]
      rcases Nat.lt_or_ge x 16 with inside | outside
      · rw [Registers.fault?_of_lt inside]
        rfl
      · rw [Registers.fault?_outside outside, if_neg (Nat.not_lt.mpr outside)]
  | draw x y rows =>
      rw [execute, perform_executeDraw_bind]
      cases machine.fault? (.draw x y rows) <;> rfl
  | skipIfDown x =>
      rw [execute, perform_readV_bind, fault?]
      cases Registers.fault? x <;> rfl
  | skipIfUp x =>
      rw [execute, perform_readV_bind, fault?]
      cases Registers.fault? x <;> rfl
  | readDelay x =>
      rw [execute, perform_bind, perform_get, fault?]
      dsimp only
      rw [perform_writeV_bind]
      cases Registers.fault? x <;> rfl
  | awaitKey x =>
      rw [execute, perform_bind, perform_get, fault?]
      dsimp only
      cases key : machine.keypad.firstDown awaitedKeys with
      | none =>
          have waits : machine.update (.awaitKey x) = machine := by
            simp only [update, registersAfter, memoryAfter, screenAfter, randomAfter, key, if_true]
          rw [if_pos rfl, waits]
          rfl
      | some number =>
          have seen : machine.update (.awaitKey x) =
              { machine with
                screen := machine.screen.setAllDue true
                registers := (machine.registers.put x (UInt8.ofNat number)).advance 1 } := by
            simp only [update, registersAfter, memoryAfter, screenAfter, randomAfter, key,
              reduceCtorEq, if_false]
          dsimp only
          rw [perform_writeV_bind, if_neg (Option.some_ne_none number), seen]
          cases Registers.fault? x <;> rfl
  | setDelay x =>
      rw [execute, perform_readV_bind, fault?]
      cases Registers.fault? x <;> rfl
  | setSound x =>
      rw [execute, perform_readV_bind, fault?]
      cases Registers.fault? x <;> rfl
  | addIndex x =>
      rw [execute, perform_bind, perform_get, fault?]
      dsimp only
      rw [perform_readV_bind]
      cases Registers.fault? x with
      | some fault => rfl
      | none => rfl
  | pointAtGlyph x =>
      rw [execute, perform_readV_bind, fault?]
      cases Registers.fault? x <;> rfl
  | storeDecimal x =>
      rw [execute, perform_readV_bind, fault?]
      cases Registers.fault? x with
      | some fault => rfl
      | none =>
          dsimp only
          rw [perform_writeIndexed_bind]
          change (match Memory.fault? machine.registers.index 3 with | none => _ | some fault => _) = _
          cases Memory.fault? machine.registers.index 3 <;> rfl
  | storeRange x => exact machine.perform_storeRange x
  | loadRange x => exact machine.perform_loadRange x
  | unassigned opcode => rfl

/-! ### From the program counter on -/

def opcode (machine : Machine) : UInt16 :=
  (machine.memory.byteAt machine.registers.pc.toNat).toUInt16 * 256 +
    (machine.memory.byteAt (machine.registers.pc.toNat + 1)).toUInt16

def current (machine : Machine) : Instruction :=
  Instruction.decode machine.opcode

theorem current_operandsInRange (machine : Machine) : machine.current.OperandsInRange :=
  Instruction.decode_operandsInRange machine.opcode

def stepFault? (machine : Machine) : Option Fault :=
  Memory.fault? machine.registers.pc 2 <|> machine.fault? machine.current

def stepped (machine : Machine) : Machine :=
  match machine.stepFault? with
  | none => machine.update machine.current
  | some _ => machine

theorem fetch_eq (machine : Machine) :
    machine.fetch =
      match Memory.fault? machine.registers.pc 2 with
      | none => .ok machine.opcode
      | some fault => .error fault := by
  unfold fetch Memory.readWord Memory.fault?
  by_cases fits : Memory.Fits machine.registers.pc 2
  · rw [if_pos fits, if_pos fits]
    rfl
  · rw [if_neg fits, if_neg fits]

/-- Decoding names no register out of range, so a fault leaves nothing behind. -/
theorem residue_of_operandsInRange (machine : Machine) {instruction : Instruction}
    (inRange : instruction.OperandsInRange) : machine.residue instruction = machine := by
  cases instruction with
  | random x mask =>
      have inside : x < 16 := inRange
      rw [residue, if_pos inside]
  | loadRange x =>
      have inside : x < 16 := inRange
      rw [residue, if_pos (Or.inl inside)]
  | _ => rfl

theorem perform_step (machine : Machine) :
    machine.perform step =
      match machine.stepFault? with
      | none => (.ok machine.current, machine.update machine.current)
      | some fault => (.error fault, machine) := by
  have whole : machine.residue machine.current = machine :=
    machine.residue_of_operandsInRange machine.current_operandsInRange
  unfold step stepFault?
  rw [perform_bind, perform_get]
  dsimp only
  rw [perform_attempt_bind, fetch_eq]
  cases Memory.fault? machine.registers.pc 2 with
  | some fault => rfl
  | none =>
      change machine.perform (execute machine.current >>= fun _ => pure machine.current) =
        match machine.fault? machine.current with
        | none => _
        | some fault => _
      rw [perform_bind, perform_execute, whole]
      cases machine.fault? machine.current <;> rfl

theorem cycle_fst (machine : Machine) : machine.cycle.1 = machine.stepped := by
  change (machine.perform step).2 = machine.stepped
  rw [perform_step]
  unfold stepped
  cases machine.stepFault? <;> rfl

theorem stepFault?_eq_none (machine : Machine) :
    machine.stepFault? = none ↔
      Memory.Fits machine.registers.pc 2 ∧ machine.fault? machine.current = none := by
  unfold stepFault? Memory.fault?
  by_cases fits : Memory.Fits machine.registers.pc 2
  · rw [if_pos fits, and_iff_right fits]
    rfl
  · rw [if_neg fits]
    constructor
    · intro impossible
      cases impossible
    · intro both
      exact absurd both.1 fits

/-- A step makes the update of the instruction at the program counter, or it changes nothing. -/
theorem stepped_cases (machine : Machine) :
    (Memory.Fits machine.registers.pc 2 ∧ machine.fault? machine.current = none ∧
        machine.stepped = machine.update machine.current) ∨
      (machine.stepFault? ≠ none ∧ machine.stepped = machine) := by
  unfold stepped
  cases found : machine.stepFault? with
  | none =>
      obtain ⟨fits, passed⟩ := machine.stepFault?_eq_none.mp found
      exact Or.inl ⟨fits, passed, rfl⟩
  | some fault => exact Or.inr ⟨Option.some_ne_none fault, rfl⟩

end Machine

end Chip8
