import Chip8.Proofs.Arithmetic
import Chip8.Proofs.CallReturn
import Chip8.Proofs.Drawing
import Chip8.Proofs.FreshStart
import Chip8.Proofs.StepFaults
import Mathlib.Data.Option.Basic
/-!
What an instruction may change. A machine is taken apart into bytes, cells, registers and the like, and
`Machine.MayChange` lists for each part the instructions that can reach it; all others leave it alone, faulted
or not. A run that executes no instruction of some kind then keeps what only that kind can reach.
-/

namespace Chip8

inductive Part where
  | byte (address : Nat)
  | pixel (x y : Nat)
  | mark (x y : Nat)
  | allDue
  | depth
  | slot (number : Nat)
  | index
  | delay
  | sound
  | random
  | keypad
  | register (x : Nat)
  deriving DecidableEq, Repr

def Part.Same (first second : Machine) : Part → Prop
  | .byte address => second.memory.byteAt address = first.memory.byteAt address
  | .pixel x y => second.screen.pixels.get x y = first.screen.pixels.get x y
  | .mark x y => second.screen.marked.get x y = first.screen.marked.get x y
  | .allDue => second.screen.allDue = first.screen.allDue
  | .depth => second.registers.depth = first.registers.depth
  | .slot number => second.registers.slot number = first.registers.slot number
  | .index => second.registers.index = first.registers.index
  | .delay => second.registers.delay = first.registers.delay
  | .sound => second.registers.sound = first.registers.sound
  | .random => second.random = first.random
  | .keypad => second.keypad = first.keypad
  | .register x => second.registers.value x = first.registers.value x

theorem Part.same_refl (machine : Machine) (part : Part) : part.Same machine machine := by
  cases part <;> exact rfl

namespace Registers

theorem value_outside (registers : Registers) {x : Nat} (outside : 16 ≤ x) :
    registers.value x = 0 := by
  rw [value, Vector.getElem?_eq_none outside]
  rfl

theorem value_put_of_ne (registers : Registers) {x other : Nat} (apart : other ≠ x)
    (byte : UInt8) : (registers.put x byte).value other = registers.value other := by
  rcases Nat.lt_or_ge x 16 with inside | outside
  · rw [value_put registers inside, if_neg apart]
  · rw [put_outside registers outside]

theorem value_putOutcome_of_ne (registers : Registers) {x other : Nat} (apart : other ≠ x)
    {outcome : UInt8 × Option UInt8} (unflagged : other = flag → outcome.2 = none) :
    (registers.putOutcome x outcome).value other = registers.value other := by
  obtain ⟨result, carry⟩ := outcome
  cases carry with
  | none => exact registers.value_put_of_ne apart result
  | some carry =>
      have notFlag : other ≠ flag := fun isFlag => Option.some_ne_none carry (unflagged isFlag)
      change ((registers.put flag carry).put x result).value other = _
      rw [value_put_of_ne _ apart, value_put_of_ne _ notFlag]

theorem value_putRun_of_le (registers : Registers) (bytes : List UInt8) {other : Nat}
    (beyond : bytes.length ≤ other) :
    (registers.putRun 0 bytes).value other = registers.value other := by
  rcases Nat.lt_or_ge other 16 with inside | outside
  · rw [value_putRun registers 0 bytes inside, if_neg (by omega)]
  · rw [value_outside _ outside, value_outside _ outside]

theorem ext_parts {first second : Registers} (index : second.index = first.index)
    (depth : second.depth = first.depth) (delay : second.delay = first.delay)
    (sound : second.sound = first.sound) (slots : ∀ number, second.slot number = first.slot number)
    (values : ∀ x, second.value x = first.value x) :
    second = { first with pc := second.pc } := by
  have stack : second.stack = first.stack := by
    apply Vector.ext
    intro number inside
    have same := slots number
    rw [slot, slot, Vector.getElem?_eq_getElem inside, Vector.getElem?_eq_getElem inside] at same
    exact same
  have v : second.v = first.v := by
    apply Vector.ext
    intro x inside
    rw [getElem_eq_value _ inside, getElem_eq_value _ inside, values]
  obtain ⟨_, _, _, _, _, _, _⟩ := second
  dsimp only at index depth delay sound stack v
  subst index depth delay sound stack v
  rfl

end Registers

def Instruction.stores : Instruction → Bool
  | .storeDecimal _ | .storeRange _ => true
  | _ => false

theorem AluOperation.apply_snd {operation : AluOperation} (x y : UInt8)
    (unflagged : ¬0x4 ≤ operation.digit.toNat) : (operation.apply x y).2 = none := by
  cases operation with
  | assign | or | and | xor => rfl
  | add | subtract | shiftRight | subtractFrom | shiftLeft => exact absurd (by decide) unflagged

theorem Memory.fits_of_fault? {address : UInt16} {length : Nat}
    (passed : fault? address length = none) : Fits address length := by
  by_contra unfit
  rw [fault?, if_neg unfit] at passed
  cases passed

/-- Machines that have the same in all parts differ in the program counter at most. -/
theorem Part.eq_of_same {first second : Machine} (same : ∀ part : Part, part.Same first second) :
    second = { first with
      registers := { first.registers with pc := second.registers.pc } } := by
  have registers := Registers.ext_parts (same .index) (same .depth) (same .delay) (same .sound)
    (fun number => same (.slot number)) (fun x => same (.register x))
  have memory : second.memory = first.memory :=
    Memory.ext_byteAt fun address _ => same (.byte address)
  have pixels : second.screen.pixels = first.screen.pixels :=
    Grid.ext_get fun x y _ => same (.pixel x y)
  have marked : second.screen.marked = first.screen.marked :=
    Grid.ext_get fun x y _ => same (.mark x y)
  have allDue : second.screen.allDue = first.screen.allDue := same .allDue
  have keypad : second.keypad = first.keypad := same .keypad
  have random : second.random = first.random := same .random
  obtain ⟨secondRegisters, _, ⟨_, _, _⟩, _, _⟩ := second
  dsimp only at registers memory pixels marked allDue keypad random
  subst memory pixels marked allDue keypad random
  congr 1

namespace Machine

/-- The instruction may change this part of the machine. -/
def MayChange (machine : Machine) : Part → Instruction → Prop
  | .byte address, .storeDecimal _ =>
      machine.registers.index.toNat ≤ address ∧ address < machine.registers.index.toNat + 3
  | .byte address, .storeRange x =>
      machine.registers.index.toNat ≤ address ∧ address ≤ machine.registers.index.toNat + x
  | .pixel _ _, .clear | .pixel _ _, .draw _ _ _ => True
  | .mark _ _, .clear | .mark _ _, .draw _ _ _ => True
  | .allDue, .clear | .allDue, .awaitKey _ => True
  | .depth, .call _ | .depth, .ret => True
  | .slot number, .call _ => number = machine.registers.depth
  | .index, .setIndex _ | .index, .addIndex _ | .index, .pointAtGlyph _ => True
  | .delay, .setDelay _ => True
  | .sound, .setSound _ => True
  | .random, .random _ _ => True
  | .register number, .setByte x _ | .register number, .addByte x _
  | .register number, .random x _ | .register number, .readDelay x
  | .register number, .awaitKey x => number = x
  | .register number, .alu operation x _ =>
      number = x ∨ (number = Registers.flag ∧ 0x4 ≤ operation.digit.toNat)
  | .register number, .draw _ _ _ | .register number, .addIndex _ => number = Registers.flag
  | .register number, .loadRange x => number ≤ x
  | _, _ => False

theorem stores_of_mayChange_byte {machine : Machine} {address : Nat} {instruction : Instruction}
    (changes : machine.MayChange (.byte address) instruction) : instruction.stores := by
  cases instruction with
  | storeDecimal x | storeRange x => rfl
  | _ => exact changes.elim

/-! ### One instruction -/

variable (machine : Machine)

theorem registersAfter_plain {instruction : Instruction} (plain : instruction.Plain) :
    let after := machine.registersAfter instruction
    after.depth = machine.registers.depth ∧ after.slot = machine.registers.slot ∧
      after.index = machine.registers.index ∧ after.delay = machine.registers.delay ∧
      after.sound = machine.registers.sound := by
  have frame := machine.registersAfter_of_plain instruction plain
  dsimp only
  rw [frame]
  exact ⟨rfl, rfl, rfl, rfl, rfl⟩

variable {machine} {instruction : Instruction}

theorem byteAt_memoryAfter (passed : machine.fault? instruction = none) {address : Nat}
    (spared : ¬machine.MayChange (.byte address) instruction) :
    (machine.memoryAfter instruction).byteAt address = machine.memory.byteAt address := by
  cases instruction with
  | storeDecimal x =>
      have fits := Memory.fits_of_fault? ((Option.orElse_eq_none _ _).mp passed).2
      rw [memoryAfter, Memory.byteAt_overlay _ _ _ _ fits]
      exact if_neg spared
  | storeRange x =>
      have fits := Memory.fits_of_fault? ((Option.orElse_eq_none _ _).mp passed).2
      have length : ((List.range (x + 1)).map machine.registers.value).length = x + 1 := by
        rw [List.length_map, List.length_range]
      rw [memoryAfter, Memory.byteAt_overlay _ _ _ _ (length.symm ▸ fits), length, if_neg]
      rintro ⟨first, last⟩
      exact spared ⟨first, Nat.le_of_lt_succ last⟩
  | _ => rfl

theorem get_screenAfter (x y : Nat) :
    (¬machine.MayChange (.pixel x y) instruction →
        (machine.screenAfter instruction).pixels.get x y = machine.screen.pixels.get x y) ∧
      (¬machine.MayChange (.mark x y) instruction →
        (machine.screenAfter instruction).marked.get x y = machine.screen.marked.get x y) := by
  cases instruction with
  | clear | draw _ _ _ => exact ⟨fun spared => absurd trivial spared, fun spared => absurd trivial spared⟩
  | awaitKey number =>
      rw [screenAfter]
      split
      · exact ⟨fun _ => rfl, fun _ => rfl⟩
      · exact ⟨fun _ => rfl, fun _ => rfl⟩
  | _ => exact ⟨fun _ => rfl, fun _ => rfl⟩

theorem allDue_screenAfter (spared : ¬machine.MayChange .allDue instruction) :
    (machine.screenAfter instruction).allDue = machine.screen.allDue := by
  cases instruction with
  | clear | awaitKey _ => exact absurd trivial spared
  | draw x y rows => exact machine.screen.allDue_flip _
  | _ => rfl

theorem value_registersAfter {number : Nat}
    (spared : ¬machine.MayChange (.register number) instruction) :
    (machine.registersAfter instruction).value number = machine.registers.value number := by
  cases instruction with
  | setByte _ _ | addByte _ _ | random _ _ | readDelay _ | draw _ _ _ =>
      exact machine.registers.value_put_of_ne spared _
  | addIndex x =>
      exact Registers.value_put_of_ne
        { machine.registers with index := machine.indexSum x &&& addressMask } spared _
  | awaitKey x =>
      rw [registersAfter]
      split
      · exact machine.registers.value_put_of_ne spared _
      · rfl
  | alu operation x y =>
      obtain ⟨notResult, notFlag⟩ := not_or.mp spared
      refine machine.registers.value_putOutcome_of_ne notResult fun isFlag => ?_
      exact AluOperation.apply_snd _ _ fun flagged => notFlag ⟨isFlag, flagged⟩
  | loadRange x =>
      refine machine.registers.value_putRun_of_le _ ?_
      rw [Memory.length_bytesFrom]
      exact Nat.lt_of_not_le spared
  | _ => rfl

theorem same_update (passed : machine.fault? instruction = none) {part : Part}
    (spared : ¬machine.MayChange part instruction) :
    part.Same machine (machine.update instruction) := by
  cases part with
  | byte address => exact byteAt_memoryAfter passed spared
  | pixel x y => exact (get_screenAfter x y).1 spared
  | mark x y => exact (get_screenAfter x y).2 spared
  | allDue => exact allDue_screenAfter spared
  | depth =>
      by_cases plain : instruction.Plain
      · exact (machine.registersAfter_plain plain).1
      · cases instruction with
        | call _ | ret => exact absurd trivial spared
        | setIndex _ | addIndex _ | pointAtGlyph _ | setDelay _ | setSound _ => rfl
        | _ => exact absurd trivial plain
  | slot number =>
      by_cases plain : instruction.Plain
      · exact congrFun (machine.registersAfter_plain plain).2.1 number
      · cases instruction with
        | call target =>
            have elsewhere : ¬(number = machine.registers.depth ∧ machine.registers.depth < 16) :=
              fun own => spared own.1
            exact (machine.registers.slot_pushed machine.registers.pc number).trans (if_neg elsewhere)
        | ret | setIndex _ | addIndex _ | pointAtGlyph _ | setDelay _ | setSound _ => rfl
        | _ => exact absurd trivial plain
  | index =>
      by_cases plain : instruction.Plain
      · exact (machine.registersAfter_plain plain).2.2.1
      · cases instruction with
        | setIndex _ | addIndex _ | pointAtGlyph _ => exact absurd trivial spared
        | call _ | ret | setDelay _ | setSound _ => rfl
        | _ => exact absurd trivial plain
  | delay =>
      by_cases plain : instruction.Plain
      · exact (machine.registersAfter_plain plain).2.2.2.1
      · cases instruction with
        | setDelay _ => exact absurd trivial spared
        | call _ | ret | setIndex _ | addIndex _ | pointAtGlyph _ | setSound _ => rfl
        | _ => exact absurd trivial plain
  | sound =>
      by_cases plain : instruction.Plain
      · exact (machine.registersAfter_plain plain).2.2.2.2
      · cases instruction with
        | setSound _ => exact absurd trivial spared
        | call _ | ret | setIndex _ | addIndex _ | pointAtGlyph _ | setDelay _ => rfl
        | _ => exact absurd trivial plain
  | random =>
      cases instruction with
      | random _ _ => exact absurd trivial spared
      | _ => rfl
  | keypad => rfl
  | register x => exact value_registersAfter spared

theorem allDue_screenAfter_cases :
    (machine.screenAfter instruction).allDue = machine.screen.allDue ∨
      (machine.screenAfter instruction).allDue = true := by
  cases instruction with
  | clear => exact Or.inr rfl
  | awaitKey x =>
      rw [screenAfter]
      split
      · exact Or.inl rfl
      · exact Or.inr rfl
  | draw x y rows => exact Or.inl (machine.screen.allDue_flip _)
  | _ => exact Or.inl rfl

/-! ### One cycle -/

theorem same_stepped {part : Part}
    (spared : ∀ instruction ∈ machine.fetched?, ¬machine.MayChange part instruction) :
    part.Same machine machine.stepped := by
  rcases machine.stepped_cases with ⟨fits, passed, updated⟩ | ⟨_, unchanged⟩
  · have fetched : machine.current ∈ machine.fetched? := by
      rw [fetched?_eq, if_pos fits]
      rfl
    rw [updated]
    exact same_update passed (spared _ fetched)
  · rw [unchanged]
    exact Part.same_refl machine part

theorem executes_of_not_same {part : Part} (changed : ¬part.Same machine machine.stepped) :
    Memory.Fits machine.registers.pc 2 ∧
      ∃ instruction : Instruction,
        instruction.EncodedBy machine.word ∧ machine.MayChange part instruction := by
  by_contra unlisted
  refine changed (same_stepped fun instruction fetched changes => unlisted ?_)
  rw [fetched?_eq] at fetched
  obtain ⟨fits, same⟩ := Option.ite_none_right_eq_some.mp fetched
  obtain rfl : machine.current = instruction := Option.some.inj same
  exact ⟨fits, machine.current, current_encodedBy, changes⟩

theorem allDue_stepped (changed : machine.stepped.screen.allDue ≠ machine.screen.allDue) :
    machine.stepped.screen.allDue = true := by
  rcases machine.stepped_cases with ⟨_, _, updated⟩ | ⟨_, unchanged⟩
  · rw [updated] at changed ⊢
    exact allDue_screenAfter_cases.resolve_left changed
  · rw [unchanged] at changed
    exact absurd rfl changed

theorem allDue_stepped_of_clear (executes : machine.fetched? = some .clear) :
    machine.stepped.screen.allDue = true := by
  rw [stepped_of_fetched? executes]
  rfl

theorem fetched?_operandsInRange (executes : machine.fetched? = some instruction) :
    instruction.OperandsInRange := by
  obtain ⟨opcode, _, rfl⟩ := Option.map_eq_some_iff.mp executes
  exact Instruction.decode_operandsInRange opcode

theorem allDue_stepped_of_awaitKey {x : Nat} (executes : machine.fetched? = some (.awaitKey x))
    (seen : machine.keypad.firstDown awaitedKeys ≠ none) :
    machine.stepped.screen.allDue = true := by
  have inside : x < 16 := fetched?_operandsInRange executes
  have passed : machine.fault? (.awaitKey x) = none := by
    rw [fault?, if_neg seen, Registers.fault?_of_lt inside]
  rw [stepped_of_fetched? executes, passed]
  change (machine.screenAfter (.awaitKey x)).allDue = true
  rw [screenAfter, if_neg seen]
  rfl

/-! ### Runs -/

def NeverExecutes (kind : Instruction → Bool) (machine : Machine) : List Move → Prop
  | [] => True
  | move :: rest =>
      (∀ instruction ∈ machine.executed? (.move move), ¬kind instruction) ∧
        (machine.afterMove move).NeverExecutes kind rest

instance decidableNeverExecutes (kind : Instruction → Bool) (machine : Machine) :
    (moves : List Move) → Decidable (machine.NeverExecutes kind moves)
  | [] => inferInstanceAs (Decidable True)
  | move :: rest =>
      have := decidableNeverExecutes kind (machine.afterMove move) rest
      inferInstanceAs (Decidable (_ ∧ _))

theorem byteAt_afterMove {address : Nat} {move : Move}
    (spared : ∀ instruction ∈ machine.executed? (.move move),
      ¬machine.MayChange (.byte address) instruction) :
    (machine.afterMove move).memory.byteAt address = machine.memory.byteAt address := by
  cases steps : machine.stepping? move with
  | none =>
      cases move with
      | countDown | key operation => rfl
      | step | cycle | tick => cases steps
  | some before =>
      obtain ⟨delay, sound, rfl⟩ := eq_withTimers_of_stepping? steps
      rw [executed?, steps] at spared
      have same : (Part.byte address).Same _ _ := same_stepped spared
      rw [(afterMove_of_stepping? steps).1]
      exact same

theorem memory_afterMove {move : Move}
    (spared : ∀ instruction ∈ machine.executed? (.move move), ¬instruction.stores) :
    (machine.afterMove move).memory = machine.memory :=
  Memory.ext_byteAt fun _ _ => byteAt_afterMove fun instruction executes changes =>
    spared instruction executes (stores_of_mayChange_byte changes)

theorem memory_afterMoves {moves : List Move}
    (spared : machine.NeverExecutes Instruction.stores moves) :
    (machine.afterMoves moves).memory = machine.memory := by
  induction moves generalizing machine with
  | nil => rfl
  | cons move rest ih => exact (ih spared.2).trans (memory_afterMove spared.1)

theorem toList_memory_of_load {before loaded : Machine} {program : List UInt8}
    (accepted : before.load program = (.ok (), loaded)) :
    loaded.memory.bytes.toList =
      font ++ List.replicate 432 0 ++ program ++ List.replicate (3584 - program.length) 0 := by
  rcases Nat.lt_or_ge programCapacity program.length with tooLarge | fits
  · rw [load_of_tooLarge before tooLarge] at accepted
    cases accepted
  · rw [load_of_fits before fits] at accepted
    cases accepted
    exact Memory.toList_program fits

/-- A cycle changes a part of the machine only if the word at the program counter means an instruction that
may change it, and the program counter apart there are no other parts. The redraw of the whole screen is
only asked for, never taken back, and is asked for by a clear and by a key that was waited for. So the digits
and the program stay as they were loaded until an instruction that stores is executed. -/
theorem cycle_changes_only_what_word_may (machine : Machine) :
    let next := machine.cycle.1
    (∀ part : Part, ¬part.Same machine next →
        Memory.Fits machine.registers.pc 2 ∧
          ∃ instruction : Instruction,
            instruction.EncodedBy machine.word ∧ machine.MayChange part instruction) ∧
      (next = { machine with registers := { machine.registers with pc := next.registers.pc } } ∨
        ∃ part : Part, ¬part.Same machine next) ∧
      (next.screen.allDue ≠ machine.screen.allDue → next.screen.allDue = true) ∧
      (machine.fetched? = some .clear → next.screen.allDue = true) ∧
      (∀ x, machine.fetched? = some (.awaitKey x) →
        machine.keypad.firstDown awaitedKeys ≠ none → next.screen.allDue = true) ∧
      ∀ moves, machine.NeverExecutes Instruction.stores moves →
        (machine.afterMoves moves).memory = machine.memory ∧
          ∀ (before : Machine) (program : List UInt8), before.load program = (.ok (), machine) →
            (machine.afterMoves moves).memory.bytes.toList =
              font ++ List.replicate 432 0 ++ program ++
                List.replicate (3584 - program.length) 0 := by
  intro next
  have cycled : next = machine.stepped := machine.cycle_fst
  refine ⟨?_, ?_, ?_, ?_, ?_, ?_⟩
  · intro part changed
    rw [cycled] at changed
    exact executes_of_not_same changed
  · by_cases same : ∀ part : Part, part.Same machine next
    · exact Or.inl (Part.eq_of_same same)
    · exact Or.inr (not_forall.mp same)
  · rw [cycled]
    exact allDue_stepped
  · rw [cycled]
    exact allDue_stepped_of_clear
  · intro x executes seen
    rw [cycled]
    exact allDue_stepped_of_awaitKey executes seen
  · intro moves spared
    have kept := memory_afterMoves spared
    refine ⟨kept, fun before program accepted => ?_⟩
    rw [kept]
    exact toList_memory_of_load accepted

/-- The screen is cleared, then a key is waited for and comes. -/
theorem clear_and_awaited_key_ask_for_redraw :
    let before := powerOn 0
    let program : List UInt8 := [0x00, 0xe0, 0xf3, 0x0a, 0x6a, 0x0c]
    let machine := before.afterOperation (.load program)
    let moves : List Move := [.tick, .key (.press 2), .tick, .tick]
    let awaiting := machine.afterMoves [.tick, .key (.press 2)]
    (before.load program = (.ok (), machine) ∧ machine.NeverExecutes Instruction.stores moves ∧
      (machine.afterMoves moves).memory.bytes.toList =
        font ++ List.replicate 432 0 ++ program ++ List.replicate 3578 0) ∧
      (machine.fetched? = some .clear ∧ machine.cycle.1.screen.allDue ≠ machine.screen.allDue ∧
        machine.cycle.1.screen.allDue = true) ∧
      (awaiting.fetched? = some (.awaitKey 3) ∧ awaiting.cycle.1.screen.allDue = true) ∧
      ¬Part.Same awaiting awaiting.cycle.1 (.register 3) ∧
      ∃ instruction : Instruction, instruction.EncodedBy awaiting.word ∧
        awaiting.MayChange (.register 3) instruction := by
  intro before program machine moves awaiting
  have accepted : before.load program = (.ok (), machine) := before.load_of_fits (by decide)
  have run : machine.NeverExecutes Instruction.stores moves := by decide +kernel
  have clears : machine.fetched? = some .clear ∧
      machine.cycle.1.screen.allDue ≠ machine.screen.allDue := by decide +kernel
  have awaits : awaiting.fetched? = some (.awaitKey 3) ∧
      awaiting.keypad.firstDown awaitedKeys ≠ none ∧
      awaiting.cycle.1.registers.value 3 ≠ awaiting.registers.value 3 := by decide +kernel
  clear_value awaiting
  obtain ⟨_, _, asked, clear, _, kept⟩ := cycle_changes_only_what_word_may machine
  obtain ⟨changes, _, _, _, seen, _⟩ := cycle_changes_only_what_word_may awaiting
  refine ⟨⟨accepted, run, (kept moves run).2 before program accepted⟩,
    ⟨clears.1, clears.2, clear clears.1⟩, ⟨awaits.1, seen 3 awaits.1 awaits.2.1⟩,
    awaits.2.2, (changes (.register 3) awaits.2.2).2⟩

end Machine

end Chip8
