import Chip8.Proofs.WellFormed
import Mathlib.Data.List.Basic
import Mathlib.Data.List.Induction
/-!
The random words of a seed are used up one by one. An instruction that asks for a random byte takes the
next word, faulted or not; a reset or an accepted load starts the words over; and nothing else touches
them. So the number of the word that an instruction takes is the number of words drawn since the last
start, whatever else has happened in between.
-/

namespace Chip8

inductive WordUse where
  | start
  | draw (x : Nat) (mask : UInt8)
  deriving DecidableEq, Repr

namespace WordUse

def isDraw : WordUse → Bool
  | .start => false
  | .draw _ _ => true

def drawnSinceStart (uses : List WordUse) : Nat :=
  (uses.reverse.takeWhile isDraw).length

theorem drawnSinceStart_append_start (uses : List WordUse) :
    drawnSinceStart (uses ++ [.start]) = 0 := by
  rw [drawnSinceStart, List.reverse_append]
  rfl

theorem drawnSinceStart_append_draw (uses : List WordUse) (x : Nat) (mask : UInt8) :
    drawnSinceStart (uses ++ [.draw x mask]) = drawnSinceStart uses + 1 := by
  rw [drawnSinceStart, List.reverse_append]
  rfl

end WordUse

namespace Random.Stream

def after (stream : Stream) : WordUse → Stream
  | .start => start stream.seed
  | .draw _ _ => stream.tail

def afterAll (stream : Stream) (uses : List WordUse) : Stream :=
  uses.foldl after stream

/-- The position counts the words drawn since the last start. -/
theorem afterAll_start (seed : UInt64) (uses : List WordUse) :
    (start seed).afterAll uses = ⟨seed, WordUse.drawnSinceStart uses⟩ := by
  unfold afterAll
  induction uses using List.reverseRecOn with
  | nil => rfl
  | append_singleton before last ih =>
      rw [List.foldl_concat, ih]
      cases last with
      | start => rw [WordUse.drawnSinceStart_append_start, after, start]
      | draw x mask => rw [WordUse.drawnSinceStart_append_draw, after, tail]

theorem afterAll_seed (stream : Stream) (uses : List WordUse) :
    (stream.afterAll uses).seed = stream.seed := by
  induction uses generalizing stream with
  | nil => rfl
  | cons use rest ih =>
      rw [afterAll, List.foldl_cons]
      refine (ih (stream.after use)).trans ?_
      cases use <;> rfl

end Random.Stream

def Instruction.wordUse? : Instruction → Option WordUse
  | .random x mask => some (.draw x mask)
  | _ => none

theorem Instruction.wordUse?_eq_some {instruction : Instruction} {use : WordUse}
    (uses : instruction.wordUse? = some use) :
    ∃ x mask, instruction = .random x mask ∧ use = .draw x mask := by
  cases instruction with
  | random x mask => exact ⟨x, mask, rfl, (Option.some.inj uses).symm⟩
  | _ => cases uses

namespace Machine

/-! ### One operation -/

def fetched? (machine : Machine) : Option Instruction :=
  machine.fetch.toOption.map Instruction.decode

def stepping? (machine : Machine) : Move → Option Machine
  | .step | .cycle => some machine
  | .tick => some machine.countDown.1
  | .countDown | .key _ => none

/-- The instruction that an operation executes, faulted or not. -/
def executed? (machine : Machine) : Operation → Option Instruction
  | .move move => (machine.stepping? move).bind fetched?
  | .execute instruction => some instruction
  | .load _ | .loadFrom _ | .reset | .screen _ => none

def wordUse? (machine : Machine) : Operation → Option WordUse
  | .reset => some .start
  | .load program => if (machine.load program).1.isOk then some .start else none
  | .loadFrom source => if (machine.loadFrom source).1.isOk then some .start else none
  | operation => (machine.executed? operation).bind Instruction.wordUse?

def wordUses (machine : Machine) : List Operation → List WordUse
  | [] => []
  | operation :: rest =>
      (machine.wordUse? operation).toList ++ (machine.afterOperation operation).wordUses rest

theorem afterMove_of_stepping? {machine before : Machine} {move : Move}
    (steps : machine.stepping? move = some before) :
    machine.afterMove move = before.stepped ∧ before.random = machine.random := by
  cases move with
  | step =>
      cases steps
      exact ⟨machine.cycle_fst, rfl⟩
  | cycle =>
      cases steps
      exact ⟨machine.cycle_fst, rfl⟩
  | tick =>
      cases steps
      exact ⟨machine.tick_fst, rfl⟩
  | countDown | key operation => cases steps

theorem afterMove_random_of_still {machine : Machine} {move : Move}
    (still : machine.stepping? move = none) : (machine.afterMove move).random = machine.random := by
  cases move with
  | countDown | key operation => rfl
  | step | cycle | tick => cases still

theorem fetched?_eq (machine : Machine) :
    machine.fetched? = if Memory.Fits machine.registers.pc 2 then some machine.current else none := by
  unfold fetched?
  rw [fetch_eq, Memory.fault?]
  by_cases fits : Memory.Fits machine.registers.pc 2
  · rw [if_pos fits, if_pos fits]
    rfl
  · rw [if_neg fits, if_neg fits]
    rfl

theorem randomAfter_eq (machine : Machine) (instruction : Instruction) :
    machine.randomAfter instruction = machine.random.afterAll instruction.wordUse?.toList := by
  cases instruction <;> rfl

theorem fault?_of_draws {machine : Machine} {instruction : Instruction}
    (inRange : instruction.OperandsInRange) {use : WordUse}
    (uses : instruction.wordUse? = some use) : machine.fault? instruction = none := by
  obtain ⟨x, mask, rfl, _⟩ := instruction.wordUse?_eq_some uses
  exact Registers.fault?_of_lt inRange

theorem fetched?_wordUse?_of_fault {machine : Machine} {fault : Fault}
    (faulted : (machine.perform step).1 = .error fault) :
    machine.fetched?.bind Instruction.wordUse? = none := by
  rw [perform_step] at faulted
  cases found : machine.stepFault? with
  | none =>
      rw [found] at faulted
      cases faulted
  | some reason =>
      rw [fetched?_eq]
      by_cases fits : Memory.Fits machine.registers.pc 2
      · rw [if_pos fits]
        cases uses : machine.current.wordUse? with
        | none => exact uses
        | some use =>
            have passed := machine.stepFault?_eq_none.mpr
              ⟨fits, fault?_of_draws machine.current_operandsInRange uses⟩
            rw [passed] at found
            cases found
      · rw [if_neg fits]
        rfl

theorem stepped_random (machine : Machine) :
    machine.stepped.random =
      machine.random.afterAll (machine.fetched?.bind Instruction.wordUse?).toList := by
  rcases machine.stepped_cases with ⟨fits, _, updated⟩ | ⟨failed, unchanged⟩
  · rw [updated, fetched?_eq, if_pos fits]
    exact machine.randomAfter_eq machine.current
  · obtain ⟨fault, found⟩ := Option.ne_none_iff_exists'.mp failed
    have faulted : (machine.perform step).1 = .error fault := by
      rw [perform_step, found]
    rw [unchanged, fetched?_wordUse?_of_fault faulted]
    rfl

/-- A word that has been drawn for a register out of range is lost. -/
theorem residue_random {machine : Machine} {instruction : Instruction} {fault : Fault}
    (failed : machine.fault? instruction = some fault) :
    (machine.residue instruction).random =
      machine.random.afterAll instruction.wordUse?.toList := by
  cases instruction with
  | random x mask =>
      rcases Nat.lt_or_ge x 16 with inside | outside
      · rw [fault?, Registers.fault?_of_lt inside] at failed
        cases failed
      · rw [residue, if_neg (Nat.not_lt.mpr outside)]
        rfl
  | loadRange x =>
      change (machine.residue (.loadRange x)).random = machine.random
      rw [residue]
      split
      · rfl
      · rw [registersLoaded]
  | _ => rfl

theorem execute_random (machine : Machine) (instruction : Instruction) :
    (machine.perform (execute instruction)).2.random =
      machine.random.afterAll instruction.wordUse?.toList := by
  rw [perform_execute]
  cases failed : machine.fault? instruction with
  | none => exact machine.randomAfter_eq instruction
  | some fault => exact residue_random failed

theorem load_random {machine loaded : Machine} {program : List UInt8}
    (accepted : machine.load program = (.ok (), loaded)) :
    loaded.random = Random.Stream.start machine.random.seed := by
  rw [eq_of_load accepted]
  rfl

theorem load_of_loadFrom {machine loaded : Machine} {source : ByteSource}
    (accepted : machine.loadFrom source = (.ok (), loaded)) :
    ∃ program, source.readToEnd = .ok program ∧ machine.load program = (.ok (), loaded) := by
  cases read : source.readToEnd with
  | error reason =>
      rw [machine.loadFrom_of_error read] at accepted
      cases accepted
  | ok program =>
      rw [machine.loadFrom_of_ok read] at accepted
      exact ⟨program, rfl, accepted⟩

theorem random_load (machine : Machine) (program : List UInt8) :
    (machine.load program).2.random =
      machine.random.afterAll
        (if (machine.load program).1.isOk then some WordUse.start else none).toList := by
  rcases Nat.lt_or_ge programCapacity program.length with tooLarge | fits
  · rw [machine.load_of_tooLarge tooLarge]
    rfl
  · rw [machine.load_of_fits fits]
    rfl

theorem random_loadFrom (machine : Machine) (source : ByteSource) :
    (machine.loadFrom source).2.random =
      machine.random.afterAll
        (if (machine.loadFrom source).1.isOk then some WordUse.start else none).toList := by
  cases read : source.readToEnd with
  | error reason =>
      rw [machine.loadFrom_of_error read]
      rfl
  | ok program =>
      rw [machine.loadFrom_of_ok read]
      exact machine.random_load program

theorem afterOperation_random (machine : Machine) (operation : Operation) :
    (machine.afterOperation operation).random =
      machine.random.afterAll (machine.wordUse? operation).toList := by
  cases operation with
  | move move =>
      change (machine.afterMove move).random =
        machine.random.afterAll (((machine.stepping? move).bind fetched?).bind _).toList
      cases steps : machine.stepping? move with
      | none => exact afterMove_random_of_still steps
      | some before =>
          obtain ⟨led, same⟩ := afterMove_of_stepping? steps
          rw [led, ← same]
          exact before.stepped_random
  | load program => exact machine.random_load program
  | loadFrom source => exact machine.random_loadFrom source
  | reset => rfl
  | execute instruction => exact machine.execute_random instruction
  | screen operation => rfl

theorem afterOperations_random (machine : Machine) (operations : List Operation) :
    (machine.afterOperations operations).random =
      machine.random.afterAll (machine.wordUses operations) := by
  induction operations generalizing machine with
  | nil => rfl
  | cons operation rest ih =>
      change ((machine.afterOperation operation).afterOperations rest).random = _
      rw [ih, afterOperation_random, wordUses]
      exact List.foldl_append.symm

/-! ### The register that is written -/

theorem registersAfter_random_value (machine : Machine) {x : Nat} (inside : x < 16) (mask : UInt8) :
    (machine.registersAfter (.random x mask)).value x = machine.random.head.toUInt8 &&& mask := by
  change (machine.registers.put x (machine.random.head.toUInt8 &&& mask)).value x = _
  rw [Registers.value_put _ inside, if_pos rfl]

theorem stepped_random_value {machine : Machine} {x : Nat} {mask : UInt8}
    (fetched : machine.fetched? = some (.random x mask)) (inside : x < 16) :
    machine.stepped.registers.value x = machine.random.head.toUInt8 &&& mask := by
  rw [fetched?_eq] at fetched
  by_cases fits : Memory.Fits machine.registers.pc 2
  · rw [if_pos fits] at fetched
    have means : machine.current = .random x mask := Option.some.inj fetched
    have passed : machine.stepFault? = none := by
      rw [stepFault?_eq_none, means]
      exact ⟨fits, Registers.fault?_of_lt inside⟩
    unfold stepped
    rw [passed, means]
    exact machine.registersAfter_random_value inside mask
  · rw [if_neg fits] at fetched
    cases fetched

theorem afterOperation_random_value {machine : Machine} {operation : Operation} {x : Nat}
    {mask : UInt8} (executes : machine.executed? operation = some (.random x mask))
    (inside : x < 16) :
    (machine.afterOperation operation).registers.value x =
      machine.random.head.toUInt8 &&& mask := by
  cases operation with
  | move move =>
      obtain ⟨before, steps, fetched⟩ := Option.bind_eq_some_iff.mp executes
      obtain ⟨led, same⟩ := afterMove_of_stepping? steps
      rw [afterOperation, led, ← same]
      exact stepped_random_value fetched inside
  | execute instruction =>
      cases executes
      rw [afterOperation, perform_execute, fault?, Registers.fault?_of_lt inside]
      exact machine.registersAfter_random_value inside mask
  | load program | loadFrom source | reset | screen operation => cases executes

theorem wordUse?_of_executed? {machine : Machine} {operation : Operation}
    {instruction : Instruction} (executes : machine.executed? operation = some instruction) :
    machine.wordUse? operation = instruction.wordUse? := by
  cases operation with
  | move move | execute _ => exact congrArg (Option.bind · Instruction.wordUse?) executes
  | load program | loadFrom source | reset | screen operation => cases executes

/-! ### Histories -/

/-- What leaves the random words alone: another instruction than the one that asks for them, faulted
and waiting ones among them, a step that faults, time and keys, the screen, and a load that is
refused. -/
inductive LeavesWords (machine : Machine) : Operation → Prop where
  | executes {operation : Operation} {instruction : Instruction}
      (executed : machine.executed? operation = some instruction)
      (other : ∀ x mask, instruction ≠ .random x mask) : machine.LeavesWords operation
  | faults {move : Move} {before : Machine} {fault : Fault}
      (steps : machine.stepping? move = some before)
      (faulted : (before.perform step).1 = .error fault) : machine.LeavesWords (.move move)
  | still {move : Move} (still : machine.stepping? move = none) : machine.LeavesWords (.move move)
  | screen (operation : ScreenOperation) : machine.LeavesWords (.screen operation)
  | refusesLoad {program : List UInt8} {reason : LoadError}
      (refused : (machine.load program).1 = .error reason) : machine.LeavesWords (.load program)
  | refusesLoadFrom {source : ByteSource} {reason : LoadError}
      (refused : (machine.loadFrom source).1 = .error reason) : machine.LeavesWords (.loadFrom source)

theorem LeavesWords.wordUse?_eq_none {machine : Machine} {operation : Operation}
    (leaves : machine.LeavesWords operation) : machine.wordUse? operation = none := by
  cases leaves with
  | @executes operation instruction executed other =>
      rw [wordUse?_of_executed? executed]
      cases uses : instruction.wordUse? with
      | none => rfl
      | some use =>
          obtain ⟨x, mask, asks, _⟩ := Instruction.wordUse?_eq_some uses
          exact absurd asks (other x mask)
  | @faults move before fault steps faulted =>
      change ((machine.stepping? move).bind fetched?).bind _ = none
      rw [steps]
      exact fetched?_wordUse?_of_fault faulted
  | @still move still =>
      change ((machine.stepping? move).bind fetched?).bind _ = none
      rw [still]
      rfl
  | screen operation => rfl
  | refusesLoad refused =>
      rw [wordUse?, refused]
      rfl
  | refusesLoadFrom refused =>
      rw [wordUse?, refused]
      rfl

theorem reachable_random (seed : UInt64) (operations : List Operation) :
    ((powerOn seed).afterOperations operations).random =
      ⟨seed, WordUse.drawnSinceStart ((powerOn seed).wordUses operations)⟩ := by
  rw [afterOperations_random]
  exact Random.Stream.afterAll_start seed _

/-- After any history the next random instruction takes the word whose number is the count of random
instructions executed since the words were last started, and keeps of its low byte what the mask
leaves. A reset and an accepted load start the words over, and everything else leaves them alone, so two
histories that have drawn equally often since their last start draw the same word next. -/
theorem random_instruction_takes_next_word (seed : UInt64) (operations : List Operation) :
    let machine := (powerOn seed).afterOperations operations
    let ordinal := WordUse.drawnSinceStart ((powerOn seed).wordUses operations)
    machine.random = ⟨seed, ordinal⟩ ∧
      (∀ next x mask, machine.executed? next = some (.random x mask) →
        (machine.afterOperation next).random = ⟨seed, ordinal + 1⟩ ∧
          (x < 16 → (machine.afterOperation next).registers.value x =
            (Random.word seed ordinal).toUInt8 &&& mask)) ∧
      (∀ next, machine.LeavesWords next →
        (machine.afterOperation next).random = ⟨seed, ordinal⟩) ∧
      (machine.reset.random = ⟨seed, 0⟩ ∧
        (∀ program loaded, machine.load program = (.ok (), loaded) →
          loaded.random = ⟨seed, 0⟩) ∧
        ∀ source loaded, machine.loadFrom source = (.ok (), loaded) →
          loaded.random = ⟨seed, 0⟩) ∧
      ∀ others : List Operation,
        WordUse.drawnSinceStart ((powerOn seed).wordUses others) = ordinal →
        ∀ next other x y mask,
          machine.executed? next = some (.random x mask) → x < 16 →
          ((powerOn seed).afterOperations others).executed? other = some (.random y mask) →
          y < 16 →
          (machine.afterOperation next).registers.value x =
            (((powerOn seed).afterOperations others).afterOperation other).registers.value y := by
  intro machine ordinal
  have random : machine.random = ⟨seed, ordinal⟩ := reachable_random seed operations
  have seeded : machine.random.seed = seed := congrArg Random.Stream.seed random
  have anew : Random.Stream.start machine.random.seed = ⟨seed, 0⟩ :=
    congrArg Random.Stream.start seeded
  refine ⟨random, ?_, ?_, ⟨anew, ?_, ?_⟩, ?_⟩
  · intro next x mask executes
    constructor
    · rw [afterOperation_random, wordUse?_of_executed? executes, random]
      rfl
    · intro inside
      rw [afterOperation_random_value executes inside, random]
      rfl
  · intro next leaves
    rw [afterOperation_random, leaves.wordUse?_eq_none]
    exact random
  · intro program loaded accepted
    exact (load_random accepted).trans anew
  · intro source loaded accepted
    obtain ⟨program, _, loads⟩ := load_of_loadFrom accepted
    exact (load_random loads).trans anew
  · intro others same next other x y mask executes xInside otherExecutes yInside
    rw [afterOperation_random_value executes xInside,
      afterOperation_random_value otherExecutes yInside, random, reachable_random seed others, same]

/-- A program that draws twice, with a word lost in between, and a history with a reset and a load that
is refused: both draw the third byte of the seed next. -/
theorem third_byte_drawn_alike :
    let first : List Operation :=
      [.load [0xc0, 0xff, 0xc1, 0xff], .move .tick, .execute (.random 16 0)]
    let second : List Operation :=
      [.execute (.random 0 0xff), .reset, .execute (.random 3 0x0f), .move .countDown,
        .load (List.replicate 3585 0), .execute (.random 3 0x0f)]
    let one := (powerOn 5).afterOperations first
    let two := (powerOn 5).afterOperations second
    one.executed? (.move .tick) = some (.random 1 0xff) ∧
      WordUse.drawnSinceStart ((powerOn 5).wordUses first) = 2 ∧
      WordUse.drawnSinceStart ((powerOn 5).wordUses second) = 2 ∧
      (one.afterOperation (.move .tick)).registers.value 1 = 247 ∧
      (two.afterOperation (.execute (.random 2 0xff))).registers.value 2 = 247 := by
  intro first second one two
  have executes : one.executed? (.move .tick) = some (.random 1 0xff) := by decide +kernel
  have firstDrawn : WordUse.drawnSinceStart ((powerOn 5).wordUses first) = 2 := by decide +kernel
  have secondDrawn : WordUse.drawnSinceStart ((powerOn 5).wordUses second) = 2 := by decide +kernel
  obtain ⟨_, draws, _, _, alike⟩ := random_instruction_takes_next_word 5 first
  have stored : (one.afterOperation (.move .tick)).registers.value 1 = 247 := by
    have byte : (Random.word 5 2).toUInt8 &&& 0xff = 247 := by decide +kernel
    rw [(draws _ _ _ executes).2 (by decide), firstDrawn, byte]
  have same := alike second (secondDrawn.trans firstDrawn.symm) (.move .tick)
    (.execute (.random 2 0xff)) 1 2 0xff executes (by decide) rfl (by decide)
  exact ⟨executes, firstDrawn, secondDrawn, stored, same.symm.trans stored⟩

end Machine

end Chip8
