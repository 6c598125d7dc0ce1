import Chip8.Proofs.SessionHistory
/-!
An accepted load leaves nothing of what was before. Of the machine only the seed of its random words
goes on, and of the session its settings and its sound device, so what follows a load depends on the
program and not on the history.
-/

namespace Chip8

/-! ### The memory image -/

namespace Memory

theorem toList_overlay (memory : Memory) (address : Nat) (data : List UInt8)
    (fits : address + data.length ≤ memorySize) :
    (memory.overlay address data).bytes.toList =
      memory.bytes.toList.take address ++ data ++
        memory.bytes.toList.drop (address + data.length) := by
  induction data generalizing memory address with
  | nil => simp [overlay]
  | cons byte rest ih =>
      rw [List.length_cons] at fits ⊢
      have inside : address < memory.bytes.toList.length := by
        rw [Vector.length_toList]
        simp only [memorySize] at fits
        omega
      have later : address + 1 + rest.length = address + (rest.length + 1) := by omega
      have placed : (memory.bytes.setIfInBounds address byte).toList =
          memory.bytes.toList.set address byte := Vector.toList_setIfInBounds
      have before : (memory.bytes.toList.take address ++ [byte]).length = address + 1 := by
        rw [List.length_append, List.length_take_of_le (Nat.le_of_lt inside), List.length_singleton]
      have kept : (memory.bytes.toList.set address byte).take (address + 1) =
          memory.bytes.toList.take address ++ [byte] := by
        rw [List.set_eq_take_append_cons_drop, if_pos inside, ← List.singleton_append,
          ← List.append_assoc, List.take_left' before]
      rw [overlay, ih _ _ (later ▸ fits), placed, kept, later, List.drop_set_of_lt (by omega),
        List.append_assoc _ [byte], List.singleton_append]

theorem toList_initial : initial.bytes.toList = font ++ List.replicate 4016 0 := by
  have zeros : zero.bytes.toList = List.replicate 4096 0 := Vector.toList_replicate
  change (zero.overlay 0 font).bytes.toList = _
  rw [toList_overlay _ _ _ (by decide), zeros, List.drop_replicate]
  rfl

theorem toList_program {program : List UInt8} (fits : program.length ≤ programCapacity) :
    (initial.overlay programStart.toNat program).bytes.toList =
      font ++ List.replicate 432 0 ++ program ++ List.replicate (3584 - program.length) 0 := by
  have start : programStart.toNat = 512 := rfl
  have fontLength : font.length = 80 := rfl
  have room : program.length ≤ 3584 := fits
  have gap : (font ++ List.replicate 4016 (0 : UInt8)).take 512 = font ++ List.replicate 432 0 := by
    rw [List.take_append, List.take_of_length_le (by decide), List.take_replicate, fontLength]
    rfl
  have behind : (font ++ List.replicate 4016 (0 : UInt8)).drop (512 + program.length) =
      List.replicate (3584 - program.length) 0 := by
    have past : font.drop (512 + program.length) = [] := List.drop_of_length_le (by omega)
    rw [List.drop_append, past, List.nil_append, List.drop_replicate, fontLength]
    congr 1
    omega
  rw [start, toList_overlay _ _ _ (by rw [memorySize]; omega), toList_initial, gap, behind]

end Memory

namespace Machine

/-- A machine that has the program and nothing else, not even of the programs before. -/
structure JustLoaded (machine : Machine) (seed : UInt64) (program : List UInt8) : Prop where
  registers_eq : machine.registers = Registers.initial
  memory_eq : machine.memory.bytes.toList =
    font ++ List.replicate 432 0 ++ program ++ List.replicate (3584 - program.length) 0
  screen_eq : machine.screen = Screen.blank
  keypad_eq : machine.keypad = Keypad.released
  random_eq : machine.random = Random.Stream.start seed

theorem JustLoaded.eq {first second : Machine} {seed : UInt64} {program : List UInt8}
    (one : first.JustLoaded seed program) (two : second.JustLoaded seed program) :
    first = second := by
  have bytes : first.memory.bytes = second.memory.bytes :=
    Vector.toList_inj.mp (one.memory_eq.trans two.memory_eq.symm)
  obtain ⟨registers, ⟨firstBytes⟩, screen, keypad, random⟩ := first
  obtain ⟨secondRegisters, ⟨secondBytes⟩, secondScreen, secondKeypad, secondRandom⟩ := second
  obtain ⟨rfl, _, rfl, rfl, rfl⟩ := one
  obtain ⟨rfl, _, rfl, rfl, rfl⟩ := two
  obtain rfl : firstBytes = secondBytes := bytes
  rfl

theorem justLoaded_of_fits (machine : Machine) {program : List UInt8}
    (fits : program.length ≤ programCapacity) :
    JustLoaded
      { machine.reset with memory := Memory.initial.overlay programStart.toNat program }
      machine.random.seed program :=
  ⟨rfl, Memory.toList_program fits, rfl, rfl, rfl⟩

/-! ### Answers -/

def answer (machine : Machine) : Operation → Answer
  | .move .step => .instruction (machine.perform step).1
  | .move (.key operation) => machine.keypad.answer operation
  | .move move => .signal (machine.signal move)
  | .load program => .load (machine.load program).1
  | .loadFrom source => .load (machine.loadFrom source).1
  | .reset => .nothing
  | .execute instruction => .execution (machine.perform (execute instruction)).1
  | .screen operation => machine.screen.answer operation

def answers (machine : Machine) : List Operation → List Answer
  | [] => []
  | operation :: rest =>
      machine.answer operation :: (machine.afterOperation operation).answers rest

theorem after_load_of_ok {machine loaded : Machine} {program : List UInt8}
    (accepted : machine.load program = (.ok (), loaded)) :
    machine.answer (.load program) = .load (.ok ()) ∧
      machine.afterOperation (.load program) = loaded := by
  rw [answer, afterOperation, accepted]
  exact ⟨rfl, rfl⟩

end Machine

/-! ### Sessions -/

namespace Session

structure JustStarted (settings : Settings) (program : List UInt8) (session : Session) :
    Prop where
  phase_eq : session.phase = .running
  interval_eq : session.interval = settings.interval
  configured_eq : session.configuredInterval = settings.interval
  clock_eq : session.clock = settings.clock
  ticker_eq : session.ticker = some ⟨settings.interval, settings.clock⟩
  machine_justLoaded : session.machine.JustLoaded session.machine.random.seed program
  seed_eq : ∀ seed ∈ settings.seed, session.machine.random.seed = seed

theorem Configured.load_justStarted {settings : Settings} {session : Session}
    (configured : session.Configured settings) {program : List UInt8}
    (fits : program.length ≤ programCapacity) :
    ∃ next, session.load program (.ok ()) = (.ok (), next) ∧ next.JustStarted settings program := by
  refine ⟨session.started program, session.load_of_fits fits, ?_⟩
  exact {
    phase_eq := rfl
    interval_eq := configured.configured_eq
    configured_eq := configured.configured_eq
    clock_eq := configured.clock_eq
    ticker_eq := by rw [started, configured.configured_eq, configured.clock_eq]
    machine_justLoaded := session.machine.justLoaded_of_fits fits
    seed_eq := configured.seed_eq }

/-- With a seed among the settings, nothing but the sound device tells such sessions apart. -/
theorem JustStarted.eq_of_seed {settings : Settings} {program : List UInt8}
    {first second : Session} (one : first.JustStarted settings program)
    (two : second.JustStarted settings program) {seed : UInt64}
    (given : settings.seed = some seed) : first = { second with sound := first.sound } := by
  have firstLoaded := one.machine_justLoaded
  have secondLoaded := two.machine_justLoaded
  rw [one.seed_eq seed given] at firstLoaded
  rw [two.seed_eq seed given] at secondLoaded
  have machine : first.machine = second.machine := firstLoaded.eq secondLoaded
  obtain ⟨firstMachine, _, _, _, _, _, sound⟩ := first
  obtain ⟨secondMachine, _, _, _, _, _, secondSound⟩ := second
  obtain ⟨rfl, rfl, rfl, rfl, rfl, _, _⟩ := one
  obtain ⟨rfl, rfl, rfl, rfl, rfl, _, _⟩ := two
  obtain rfl : firstMachine = secondMachine := machine
  rfl

end Session

namespace Machine

theorem reachable_seed (seed : UInt64) (operations : List Operation) :
    ((powerOn seed).afterOperations operations).random.seed = seed :=
  congrArg Random.Stream.seed (reachable_random seed operations)

/-- Two histories of one seed end in the same machine when a program that fits is loaded, and answer
alike from then on; a reset ends both in a new machine. Sessions with the same settings run alike from
such a load on, whatever they went through. -/
theorem load_erases_history (seed : UInt64) (first second : List Operation) {program : List UInt8}
    (fits : program.length ≤ 3584) :
    let one := (powerOn seed).afterOperations first
    let two := (powerOn seed).afterOperations second
    (∃ loaded, one.load program = (.ok (), loaded) ∧ two.load program = (.ok (), loaded) ∧
        loaded.JustLoaded seed program) ∧
      (∀ later : List Operation,
        one.answers (.load program :: later) = two.answers (.load program :: later) ∧
          one.afterOperations (.load program :: later) =
            two.afterOperations (.load program :: later)) ∧
      (one.reset = powerOn seed ∧ two.reset = powerOn seed) ∧
      ∀ (settings : Settings) (oneDrawn twoDrawn : UInt64) (oneSound twoSound : SoundDevice)
        (oneEvents twoEvents : List SessionEvent),
        ∃ oneNext twoNext : Session,
          ((Session.start settings oneDrawn oneSound).afterEvents oneEvents).load program (.ok ()) =
              (.ok (), oneNext) ∧
            ((Session.start settings twoDrawn twoSound).afterEvents twoEvents).load program (.ok ()) =
              (.ok (), twoNext) ∧
            oneNext.JustStarted settings program ∧ twoNext.JustStarted settings program ∧
            ∀ given, settings.seed = some given →
              oneNext = { twoNext with sound := oneNext.sound } := by
  intro one two
  have oneSeed : one.random.seed = seed := reachable_seed seed first
  have twoSeed : two.random.seed = seed := reachable_seed seed second
  have oneLoads := one.load_of_fits fits
  have twoLoads := two.load_of_fits fits
  have oneImage := one.justLoaded_of_fits fits
  have twoImage := two.justLoaded_of_fits fits
  rw [oneSeed] at oneImage
  rw [twoSeed] at twoImage
  rw [← oneImage.eq twoImage] at twoLoads
  refine ⟨⟨_, oneLoads, twoLoads, oneImage⟩, ?_, ⟨?_, ?_⟩, ?_⟩
  · intro later
    obtain ⟨oneAnswer, oneNext⟩ := after_load_of_ok oneLoads
    obtain ⟨twoAnswer, twoNext⟩ := after_load_of_ok twoLoads
    constructor
    · rw [answers, answers, oneAnswer, twoAnswer, oneNext, twoNext]
    · change (one.afterOperation _).afterOperations later =
        (two.afterOperation _).afterOperations later
      rw [oneNext, twoNext]
  · rw [reset, oneSeed]
  · rw [reset, twoSeed]
  · intro settings oneDrawn twoDrawn oneSound twoSound oneEvents twoEvents
    have oneConfigured := Session.reachable_configured settings oneDrawn oneSound oneEvents
    have twoConfigured := Session.reachable_configured settings twoDrawn twoSound twoEvents
    obtain ⟨oneNext, oneStarts, oneRuns⟩ := oneConfigured.load_justStarted fits
    obtain ⟨twoNext, twoStarts, twoRuns⟩ := twoConfigured.load_justStarted fits
    exact ⟨oneNext, twoNext, oneStarts, twoStarts, oneRuns, twoRuns,
      fun _ given => oneRuns.eq_of_seed twoRuns given⟩

/-- A machine that has drawn a random byte and a sprite and holds a key down, and one that has only
executed a call: the same short program ends their difference, and random bytes come alike. -/
theorem short_program_erases_long_one :
    let first : List Operation :=
      [.load [0xc0, 0xff, 0xd0, 0x05, 0x60, 0x01, 0x12, 0x00], .move .tick, .move .tick,
        .move (.key (.press 3)), .screen (.toggle 1 1), .screen (.setAllDue true)]
    let second : List Operation := [.execute (.call 0x300)]
    let program : List UInt8 := [0xc0, 0xff]
    let one := (powerOn 5).afterOperations first
    let two := (powerOn 5).afterOperations second
    one ≠ two ∧
      (∃ loaded, one.load program = (.ok (), loaded) ∧ two.load program = (.ok (), loaded) ∧
        loaded.memory.bytes.toList = font ++ List.replicate 432 0 ++ program ++
          List.replicate 3582 0) ∧
      one.afterOperations [.load program, .move .tick] =
        two.afterOperations [.load program, .move .tick] ∧
      one.reset = powerOn 5 := by
  intro first second program one two
  have fits : program.length ≤ 3584 := by decide
  have differ : one.registers.pc ≠ two.registers.pc := by decide +kernel
  obtain ⟨⟨loaded, oneLoads, twoLoads, image⟩, alike, ⟨renewed, _⟩, _⟩ :=
    load_erases_history 5 first second fits
  exact ⟨fun same => differ (congrArg (·.registers.pc) same),
    ⟨loaded, oneLoads, twoLoads, image.memory_eq⟩, (alike [.move .tick]).2, renewed⟩

end Machine

end Chip8
