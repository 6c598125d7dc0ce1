import Chip8.Proofs.Timers
import Chip8.Proofs.ToneReplay
import Chip8.Session.Command
/-!
A machine that makes no progress never makes any again. Where no word can be fetched, and at an
instruction that is none, jumps to itself, waits for a key or faults, time passes and the timers run
down, and that is all, until somebody works the keys. How often the background beat has come by then
cannot be told.
-/

namespace Chip8

namespace Machine

/-- The machine stands still: the word at the program counter cannot be fetched or leads nowhere. -/
inductive Parked (machine : Machine) : Prop where
  | unfetched {fault : Fault} (fetched : machine.fetch = .error fault)
  | unassigned {opcode word : UInt16} (fetched : machine.fetch = .ok opcode)
      (means : Instruction.decode opcode = .unassigned word)
  | looping {opcode : UInt16} (fetched : machine.fetch = .ok opcode)
      (means : Instruction.decode opcode = .jump machine.registers.pc)
  | waiting {opcode : UInt16} {x : Nat} (fetched : machine.fetch = .ok opcode)
      (means : Instruction.decode opcode = .awaitKey x)
      (up : ∀ key < 15, machine.keypad.isDown key = false)
  | faulting {opcode : UInt16} {fault : Fault} (fetched : machine.fetch = .ok opcode)
      (faults : (machine.perform (execute (Instruction.decode opcode))).1 = .error fault)

/-! ### Standing still -/

theorem stepFault?_of_fetch_error {machine : Machine} {fault : Fault}
    (fetched : machine.fetch = .error fault) : machine.stepFault? = some fault := by
  rw [fetch_eq] at fetched
  unfold stepFault?
  cases found : Memory.fault? machine.registers.pc 2 with
  | none =>
      rw [found] at fetched
      cases fetched
  | some reason =>
      rw [found] at fetched
      exact congrArg some (Except.error.inj fetched)

theorem current_of_fetch_ok {machine : Machine} {opcode : UInt16} (fetched : machine.fetch = .ok opcode) :
    machine.current = Instruction.decode opcode ∧
      machine.stepFault? = machine.fault? (Instruction.decode opcode) := by
  rw [fetch_eq] at fetched
  unfold stepFault? current
  cases found : Memory.fault? machine.registers.pc 2 with
  | none =>
      rw [found] at fetched
      rw [Except.ok.inj fetched]
      exact ⟨rfl, rfl⟩
  | some reason =>
      rw [found] at fetched
      cases fetched

theorem stepped_of_fault {machine : Machine} {fault : Fault}
    (found : machine.stepFault? = some fault) : machine.stepped = machine := by
  unfold stepped
  rw [found]

theorem stepped_of_update {machine : Machine}
    (unmoved : machine.update machine.current = machine) : machine.stepped = machine := by
  rcases machine.stepped_cases with ⟨_, _, updated⟩ | ⟨_, unchanged⟩
  · rw [updated, unmoved]
  · exact unchanged

theorem update_jump_pc {machine : Machine} (bound : machine.registers.pc.toNat ≤ 0xfff) :
    machine.update (.jump machine.registers.pc) = machine := by
  have kept : machine.registers.pc &&& addressMask = machine.registers.pc := by
    apply UInt16.toNat_inj.mp
    rw [UInt16.toNat_and]
    exact Nat.and_two_pow_sub_one_of_lt_two_pow (n := 12) (Nat.lt_succ_of_le bound)
  have stays : machine.registers.jump machine.registers.pc = machine.registers := by
    unfold Registers.jump
    rw [kept]
  change { machine with registers := machine.registers.jump machine.registers.pc } = machine
  rw [stays]

end Machine

theorem Keypad.firstDown_eq_none {keypad : Keypad} {limit : Nat}
    (up : ∀ key < limit, keypad.isDown key = false) : keypad.firstDown limit = none := by
  apply List.find?_eq_none.mpr
  intro key listed
  have below := List.mem_range.mp listed
  rw [up key (Nat.lt_of_lt_of_le below (Nat.min_le_left limit 16))]
  exact Bool.false_ne_true

namespace Machine

theorem update_awaitKey {machine : Machine}
    (up : ∀ key < awaitedKeys, machine.keypad.isDown key = false) (x : Nat) :
    machine.update (.awaitKey x) = machine := by
  have none := Keypad.firstDown_eq_none up
  simp only [update, registersAfter, memoryAfter, screenAfter, randomAfter, none, if_true]

theorem Parked.stepped_eq {machine : Machine} (parked : machine.Parked) :
    machine.stepped = machine := by
  cases parked with
  | unfetched fetched => exact stepped_of_fault (stepFault?_of_fetch_error fetched)
  | unassigned fetched means =>
      apply stepped_of_update
      rw [(current_of_fetch_ok fetched).1, means]
      rfl
  | @looping opcode fetched means =>
      have bound : machine.registers.pc.toNat ≤ 0xfff := by
        have inRange := Instruction.decode_operandsInRange opcode
        rw [means] at inRange
        exact inRange
      apply stepped_of_update
      rw [(current_of_fetch_ok fetched).1, means]
      exact update_jump_pc bound
  | waiting fetched means up =>
      apply stepped_of_update
      rw [(current_of_fetch_ok fetched).1, means]
      exact update_awaitKey up _
  | @faulting opcode fault fetched faults =>
      rw [perform_execute] at faults
      cases found : machine.fault? (Instruction.decode opcode) with
      | none =>
          rw [found] at faults
          cases faults
      | some reason =>
          apply stepped_of_fault
          rw [(current_of_fetch_ok fetched).2, found]

theorem Parked.withTimers {machine : Machine} (parked : machine.Parked) (delay sound : UInt8) :
    (machine.withTimers delay sound).Parked := by
  cases parked with
  | unfetched fetched => exact .unfetched fetched
  | unassigned fetched means => exact .unassigned fetched means
  | looping fetched means => exact .looping fetched means
  | waiting fetched means up => exact .waiting fetched means up
  | faulting fetched faults =>
      exact .faulting fetched ((machine.perform_execute_withTimers delay sound _).trans faults)

theorem Parked.countedDown {machine : Machine} (parked : machine.Parked) (count : Nat) :
    (machine.countedDown count).Parked :=
  parked.withTimers _ _

end Machine

/-! ### Time passing -/

def Move.Unattended : Move → Prop
  | .key _ => False
  | _ => True

def Move.countsDown : Move → Bool
  | .countDown | .tick => true
  | _ => false

namespace Machine

def signal (machine : Machine) : Move → Option Tone
  | .countDown => machine.countDown.2
  | .cycle => machine.cycle.2
  | .tick => machine.tick.2
  | .step | .key _ => none

def tones (machine : Machine) : List Move → List Tone
  | [] => []
  | move :: rest => (machine.signal move).toList ++ (machine.afterMove move).tones rest

variable {machine : Machine}

theorem Parked.cycle_eq (parked : machine.Parked) : machine.cycle = (machine, none) := by
  have next : machine.cycle.1 = machine := machine.cycle_fst.trans parked.stepped_eq
  have signal : machine.cycle.2 =
      if machine.registers.sound = 0 ∧ machine.cycle.1.registers.sound ≠ 0 then some .start
      else none := rfl
  have steady : ¬(machine.registers.sound = 0 ∧ machine.cycle.1.registers.sound ≠ 0) := by
    rw [next]
    exact fun both => both.2 both.1
  rw [if_neg steady] at signal
  exact Prod.ext next signal

theorem Parked.beat_eq (parked : machine.Parked) (count : Nat) :
    machine.beat count = (machine.countedDown count,
      if 0 < machine.registers.sound.toNat ∧ machine.registers.sound.toNat ≤ count then some .stop
      else none) := by
  have lower : (machine.countDownTimes count).1.Parked := by
    rw [countDownTimes_fst]
    exact parked.countedDown count
  have beaten : machine.beat count = ((machine.countDownTimes count).1.cycle.1,
      (machine.countDownTimes count).1.cycle.2.or (machine.countDownTimes count).2) := rfl
  have running : machine.registers.sound ≠ 0 ↔ 0 < machine.registers.sound.toNat := by
    rw [Nat.pos_iff_ne_zero, ne_eq, ← UInt8.toNat_inj]
    rfl
  have silent : (machine.countedDown count).registers.sound = 0 ↔
      machine.registers.sound.toNat ≤ count := lowered_eq_zero
  rw [beaten, lower.cycle_eq, Option.none_or, countDownTimes_signal, countDownTimes_fst]
  simp only [running, silent]

theorem Parked.afterMove_eq (parked : machine.Parked) {move : Move} (unattended : move.Unattended) :
    machine.afterMove move = machine.countedDown (if move.countsDown then 1 else 0) := by
  cases move with
  | countDown => exact machine.countDown_fst
  | step =>
      have led : (machine.perform step).2 = machine := machine.cycle_fst.trans parked.stepped_eq
      exact led.trans machine.countedDown_zero.symm
  | cycle => exact (congrArg Prod.fst parked.cycle_eq).trans machine.countedDown_zero.symm
  | tick => exact congrArg Prod.fst (parked.beat_eq 1)
  | key operation => cases unattended

theorem Parked.signal_eq (parked : machine.Parked) (move : Move) :
    machine.signal move =
      if move.countsDown = true ∧ machine.registers.sound.toNat = 1 then some .stop else none := by
  have one : machine.registers.sound = 1 ↔ machine.registers.sound.toNat = 1 :=
    UInt8.toNat_inj.symm
  have counted : machine.countDown.2 =
      if machine.registers.sound.toNat = 1 then some .stop else none := by
    simp only [← one]
    rfl
  have last : 0 < machine.registers.sound.toNat ∧ machine.registers.sound.toNat ≤ 1 ↔
      machine.registers.sound.toNat = 1 := by omega
  cases move with
  | countDown => simp [signal, Move.countsDown, counted]
  | tick => simp only [signal, Move.countsDown, tick, parked.beat_eq, last, true_and]
  | cycle => simp [signal, Move.countsDown, parked.cycle_eq]
  | step | key operation => simp [signal, Move.countsDown]

theorem Parked.afterMoves_eq (parked : machine.Parked) {moves : List Move}
    (unattended : ∀ move ∈ moves, move.Unattended) :
    machine.afterMoves moves = machine.countedDown (moves.countP Move.countsDown) := by
  induction moves generalizing machine with
  | nil => exact machine.countedDown_zero.symm
  | cons move rest ih =>
      have next := parked.afterMove_eq (unattended move List.mem_cons_self)
      have later := fun other listed => unattended other (List.mem_cons_of_mem move listed)
      change (machine.afterMove move).afterMoves rest = _
      rw [next, ih (parked.countedDown _) later, countedDown_countedDown, List.countP_cons,
        Nat.add_comm]

theorem Parked.tones_eq (parked : machine.Parked) {moves : List Move}
    (unattended : ∀ move ∈ moves, move.Unattended) :
    machine.tones moves =
      if 0 < machine.registers.sound.toNat ∧
          machine.registers.sound.toNat ≤ moves.countP Move.countsDown then [.stop]
      else [] := by
  induction moves generalizing machine with
  | nil =>
      have never : ¬(0 < machine.registers.sound.toNat ∧
          machine.registers.sound.toNat ≤ ([] : List Move).countP Move.countsDown) := by
        rw [List.countP_nil]
        omega
      rw [if_neg never]
      rfl
  | cons move rest ih =>
      have later := fun other listed => unattended other (List.mem_cons_of_mem move listed)
      rw [tones, parked.afterMove_eq (unattended move List.mem_cons_self), parked.signal_eq,
        ih (parked.countedDown _) later, countedDown_sound, List.countP_cons]
      by_cases counts : move.countsDown = true
      · by_cases last : machine.registers.sound.toNat = 1
        · simp [counts, last]
        · have onward : 0 < machine.registers.sound.toNat - 1 ∧
              machine.registers.sound.toNat - 1 ≤ rest.countP Move.countsDown ↔
                0 < machine.registers.sound.toNat ∧
                  machine.registers.sound.toNat ≤ rest.countP Move.countsDown + 1 := by omega
          simp only [counts, last, and_false, if_true, if_false, onward]
          rfl
      · simp [counts]

theorem Parked.beat_of_runDown (parked : machine.Parked) (delay : machine.registers.delay = 0)
    (sound : machine.registers.sound = 0) (count : Nat) : machine.beat count = (machine, none) := by
  have low : ∀ timer : UInt8, timer = 0 → lowered timer count = timer := by
    intro timer zero
    rw [zero, lowered_eq_zero]
    exact Nat.zero_le count
  have kept : machine.countedDown count = machine := by
    rw [Machine.countedDown, low _ delay, low _ sound]
    rfl
  have silent : ¬(0 < machine.registers.sound.toNat ∧ machine.registers.sound.toNat ≤ count) := by
    rw [sound]
    exact fun running => Nat.lt_irrefl 0 running.1
  rw [parked.beat_eq, kept, if_neg silent]

end Machine

/-! ### In a session -/

namespace Session

def beat (session : Session) (count : Nat) : Session :=
  { session with
    machine := (session.machine.beat count).1
    sound := session.sound.signal? (session.machine.beat count).2 }

theorem backgroundBeat_cases (session : Session) (due : Nat) :
    session.backgroundBeat due = session ∨ ∃ count, session.backgroundBeat due = session.beat count := by
  obtain ⟨machine, phase, interval, configuredInterval, clock, ticker, sound⟩ := session
  cases ticker with
  | none => exact .inl rfl
  | some ticker =>
      obtain ⟨tickerInterval, tickerClock⟩ := ticker
      cases tickerClock with
      | perTick => exact .inr ⟨1, rfl⟩
      | sixtyHertz => exact .inr ⟨due, rfl⟩

/-- Background beats, each after a number of sixtieths of a second. -/
def afterBeats (session : Session) (due : List Nat) : Session :=
  due.foldl backgroundBeat session

def rested (session : Session) : Session :=
  { session with
    machine := session.machine.timerless
    sound := if session.machine.registers.sound = 0 then session.sound
      else session.sound.signal .stop }

def RunDown (session : Session) : Prop :=
  session.machine.registers.delay = 0 ∧ session.machine.registers.sound = 0

theorem RunDown.rested {session : Session} (runDown : session.RunDown) :
    session.rested = session := by
  have machine : session.machine.timerless = session.machine := by
    have whole : session.machine.withTimers session.machine.registers.delay
      session.machine.registers.sound = session.machine := rfl
    rw [runDown.1, runDown.2] at whole
    exact whole
  rw [Session.rested, machine, if_pos runDown.2]

theorem beat_parked {session : Session} (parked : session.machine.Parked) (count : Nat) :
    (session.beat count).machine.Parked := by
  rw [beat, parked.beat_eq]
  exact parked.countedDown count

theorem rested_beat {session : Session} (parked : session.machine.Parked) (count : Nat) :
    (session.beat count).rested = session.rested := by
  have silent : Machine.lowered session.machine.registers.sound count = 0 ↔
      session.machine.registers.sound.toNat ≤ count := Machine.lowered_eq_zero
  have off : session.machine.registers.sound = 0 ↔ session.machine.registers.sound.toNat = 0 :=
    UInt8.toNat_inj.symm
  have device :
      (if Machine.lowered session.machine.registers.sound count = 0 then
          (session.beat count).sound else (session.beat count).sound.signal .stop) =
        if session.machine.registers.sound = 0 then session.sound
        else session.sound.signal .stop := by
    have heard : (session.beat count).sound = session.sound.signal?
        (if 0 < session.machine.registers.sound.toNat ∧
          session.machine.registers.sound.toNat ≤ count then some .stop else none) := by
      rw [beat, parked.beat_eq]
    rw [heard]
    simp only [silent, off]
    rcases Nat.eq_zero_or_pos session.machine.registers.sound.toNat with zero | running
    · simp [zero, SoundDevice.signal?]
    · have on : session.machine.registers.sound.toNat ≠ 0 := Nat.ne_of_gt running
      by_cases reached : session.machine.registers.sound.toNat ≤ count
      · simp [running, reached, on, SoundDevice.signal?]
      · simp [reached, on, SoundDevice.signal?]
  have led : (session.beat count).machine = session.machine.countedDown count :=
    congrArg Prod.fst (parked.beat_eq count)
  unfold rested
  rw [led, ← device]
  rfl

theorem RunDown.beat_eq {session : Session} (runDown : session.RunDown)
    (parked : session.machine.Parked) (count : Nat) : session.beat count = session := by
  rw [beat, parked.beat_of_runDown runDown.1 runDown.2]
  rfl

theorem RunDown.afterBeats_eq {session : Session} (runDown : session.RunDown)
    (parked : session.machine.Parked) (due : List Nat) : session.afterBeats due = session := by
  induction due with
  | nil => rfl
  | cons first rest ih =>
      change (session.backgroundBeat first).afterBeats rest = session
      rcases session.backgroundBeat_cases first with same | ⟨count, beaten⟩
      · rw [same, ih]
      · rw [beaten, runDown.beat_eq parked, ih]

theorem afterBeats_rested {session : Session} (parked : session.machine.Parked) (due : List Nat) :
    (session.afterBeats due).machine.Parked ∧ (session.afterBeats due).rested = session.rested := by
  induction due generalizing session with
  | nil => exact ⟨parked, rfl⟩
  | cons first rest ih =>
      change ((session.backgroundBeat first).afterBeats rest).machine.Parked ∧
        ((session.backgroundBeat first).afterBeats rest).rested = _
      rcases session.backgroundBeat_cases first with same | ⟨count, beaten⟩
      · rw [same]
        exact ih parked
      · rw [beaten]
        obtain ⟨still, same⟩ := ih (beat_parked parked count)
        exact ⟨still, same.trans (rested_beat parked count)⟩

end Session

namespace Machine

/-- While the keys are left alone a parked machine stays parked at the same instruction, whatever it is
made to do, and only its timers run down. It never starts a tone, and stops one once, when the sound
timer reaches zero. A session leaves it alone once the timers have run down, so the session that is
found then is the same however often it has beaten. -/
theorem parked_is_final {machine : Machine} (parked : machine.Parked) :
    (∀ moves : List Move, (∀ move ∈ moves, move.Unattended) →
      let now := machine.afterMoves moves
      let count := moves.countP Move.countsDown
      now.Parked ∧ now.timerless = machine.timerless ∧
        now.registers.delay.toNat = machine.registers.delay.toNat - count ∧
        now.registers.sound.toNat = machine.registers.sound.toNat - count ∧
        (∀ move, now.signal move =
          if move.countsDown = true ∧ machine.registers.sound.toNat = count + 1 then some .stop
          else none) ∧
        machine.tones moves =
          if 0 < machine.registers.sound.toNat ∧ machine.registers.sound.toNat ≤ count then [.stop]
          else []) ∧
    ∀ session : Session, session.machine = machine →
      (machine.registers.delay = 0 → machine.registers.sound = 0 →
        (∀ due, session.afterBeats due = session) ∧ session.tick = session ∧
          ∀ count, machine.beat count = (machine, none)) ∧
      ∀ first second,
        (session.afterBeats first).RunDown → (session.afterBeats second).RunDown →
          session.afterBeats first = session.afterBeats second := by
  constructor
  · intro moves unattended now count
    have reached : now = machine.countedDown count := parked.afterMoves_eq unattended
    have still : now.Parked := by
      rw [reached]
      exact parked.countedDown count
    have sound : now.registers.sound.toNat = machine.registers.sound.toNat - count := by
      rw [reached, countedDown_sound]
    have last : machine.registers.sound.toNat - count = 1 ↔
        machine.registers.sound.toNat = count + 1 := by omega
    refine ⟨still, ?_, ?_, sound, ?_, parked.tones_eq unattended⟩
    · rw [reached]
      rfl
    · rw [reached, countedDown_delay]
    · intro move
      rw [still.signal_eq, sound]
      simp only [last]
  · intro session same
    subst same
    constructor
    · intro delay sound
      have runDown : session.RunDown := ⟨delay, sound⟩
      exact ⟨runDown.afterBeats_eq parked, runDown.beat_eq parked 1,
        parked.beat_of_runDown delay sound⟩
    · intro first second one two
      obtain ⟨_, left⟩ := Session.afterBeats_rested parked first
      obtain ⟨_, right⟩ := Session.afterBeats_rested parked second
      rw [← one.rested, left, ← right, two.rested]

/-- A tone of two sixtieths, after which the program jumps to its last instruction for ever. -/
theorem jump_to_itself_stops_once :
    let loaded := (powerOn 0).afterOperation (.load [0x61, 0x02, 0xf1, 0x18, 0x12, 0x04])
    let machine := loaded.afterMoves [.tick, .tick]
    let moves : List Move := [.tick, .cycle, .countDown, .countDown]
    machine.Parked ∧ (∀ move ∈ moves, move.Unattended) ∧
      (machine.afterMoves moves).timerless = machine.timerless ∧ machine.tones moves = [.stop] := by
  intro loaded machine moves
  have fetched : machine.fetch = .ok 0x1204 := by decide +kernel
  have means : Instruction.decode 0x1204 = .jump machine.registers.pc := by decide +kernel
  have unattended : ∀ move ∈ moves, move.Unattended := by
    simp [moves, Move.Unattended]
  have sounds : machine.registers.sound.toNat = 2 := by decide +kernel
  have parked : machine.Parked := .looping fetched means
  obtain ⟨_, same, _, _, _, tones⟩ := (parked_is_final parked).1 moves unattended
  refine ⟨parked, unattended, same, ?_⟩
  rw [tones, sounds]
  rfl

end Machine

end Chip8
