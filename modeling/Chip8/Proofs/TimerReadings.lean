import Chip8.Proofs.Effects
import Chip8.Proofs.Parked
/-!
The timers as a measure of time. From the move that sets a timer on, every tick takes one off until nothing is
left, whatever the program does on it, and nothing else touches the timer until it is set again. A tick counts
down before it executes, so an instruction that reads the delay timer finds its own tick already taken off.
-/

namespace Chip8

inductive Timer where
  | delay
  | sound
  deriving DecidableEq, Repr

namespace Timer

def setting (x : Nat) : Timer → Instruction
  | .delay => .setDelay x
  | .sound => .setSound x

def setBy : Timer → Instruction → Bool
  | .delay, .setDelay _ | .sound, .setSound _ => true
  | _, _ => false

def part : Timer → Part
  | .delay => .delay
  | .sound => .sound

theorem exists_setting {timer : Timer} {instruction : Instruction}
    (sets : timer.setBy instruction) : ∃ x, instruction = timer.setting x := by
  cases timer with
  | delay =>
      cases instruction with
      | setDelay x => exact ⟨x, rfl⟩
      | _ => cases sets
  | sound =>
      cases instruction with
      | setSound x => exact ⟨x, rfl⟩
      | _ => cases sets

theorem setBy_of_mayChange {timer : Timer} {machine : Machine} {instruction : Instruction}
    (changes : machine.MayChange timer.part instruction) : timer.setBy instruction := by
  cases timer with
  | delay =>
      cases instruction with
      | setDelay x => rfl
      | _ => exact changes.elim
  | sound =>
      cases instruction with
      | setSound x => rfl
      | _ => exact changes.elim

end Timer

def Registers.timer (registers : Registers) : Timer → UInt8
  | .delay => registers.delay
  | .sound => registers.sound

namespace Machine

variable {machine : Machine} {timer : Timer} {move : Move}

/-! ### One move -/

theorem timer_stepped (unset : ∀ instruction ∈ machine.fetched?, ¬timer.setBy instruction) :
    machine.stepped.registers.timer timer = machine.registers.timer timer := by
  have same : timer.part.Same machine machine.stepped :=
    same_stepped fun instruction fetched changes =>
      unset instruction fetched (Timer.setBy_of_mayChange changes)
  cases timer with
  | delay | sound => exact same

theorem timer_of_stepping? {before : Machine} (steps : machine.stepping? move = some before) :
    before.registers.timer timer =
      lowered (machine.registers.timer timer) (if move.countsDown then 1 else 0) := by
  cases move with
  | step | cycle =>
      cases steps
      exact (lowered_zero _).symm
  | tick =>
      cases steps
      rw [countDown_fst]
      cases timer <;> rfl
  | countDown | key operation => cases steps

theorem timer_afterMove
    (unset : ∀ instruction ∈ machine.executed? (.move move), ¬timer.setBy instruction) :
    (machine.afterMove move).registers.timer timer =
      lowered (machine.registers.timer timer) (if move.countsDown then 1 else 0) := by
  cases steps : machine.stepping? move with
  | none =>
      cases move with
      | countDown =>
          rw [afterMove, countDown_fst]
          cases timer <;> rfl
      | key operation => exact (lowered_zero _).symm
      | step | cycle | tick => cases steps
  | some before =>
      rw [executed?, steps] at unset
      rw [(afterMove_of_stepping? steps).1, timer_stepped unset, timer_of_stepping? steps]

theorem timer_afterMove_of_setting {x : Nat}
    (sets : machine.executed? (.move move) = some (timer.setting x)) :
    (machine.afterMove move).registers.timer timer = machine.registers.value x := by
  obtain ⟨_, _, fetched⟩ := Option.bind_eq_some_iff.mp sets
  have inRange := fetched?_operandsInRange fetched
  obtain ⟨delay, sound, led⟩ := afterMove_of_executed? sets
  cases timer with
  | delay =>
      have passed : machine.fault? (.setDelay x) = none := Registers.fault?_of_lt inRange
      rw [led, Timer.setting, passed]
      rfl
  | sound =>
      have passed : machine.fault? (.setSound x) = none := Registers.fault?_of_lt inRange
      rw [led, Timer.setting, passed]
      rfl

theorem value_afterMove_of_readDelay {x : Nat}
    (reads : machine.executed? (.move move) = some (.readDelay x)) :
    (machine.afterMove move).registers.value x =
      lowered machine.registers.delay (if move.countsDown then 1 else 0) := by
  obtain ⟨before, steps, fetched⟩ := Option.bind_eq_some_iff.mp reads
  have inside : x < 16 := fetched?_operandsInRange fetched
  have passed : before.fault? (.readDelay x) = none := Registers.fault?_of_lt inside
  have counted : before.registers.timer .delay = _ := timer_of_stepping? steps
  rw [(afterMove_of_stepping? steps).1, stepped_of_fetched? fetched, passed]
  change (before.registers.put x (before.registers.timer .delay)).value x = _
  rw [Registers.value_put _ inside, if_pos rfl, counted]
  rfl

/-! ### Runs -/

theorem neverExecutes_concat {kind : Instruction → Bool} {moves : List Move} :
    machine.NeverExecutes kind (moves ++ [move]) ↔
      machine.NeverExecutes kind moves ∧
        ∀ instruction ∈ (machine.afterMoves moves).executed? (.move move), ¬kind instruction := by
  induction moves generalizing machine with
  | nil => exact and_comm
  | cons first rest ih => exact (and_congr_right fun _ => ih).trans and_assoc.symm

theorem timer_afterMoves {moves : List Move} (unset : machine.NeverExecutes timer.setBy moves) :
    (machine.afterMoves moves).registers.timer timer =
      lowered (machine.registers.timer timer) (moves.countP Move.countsDown) := by
  induction moves generalizing machine with
  | nil => exact (lowered_zero _).symm
  | cons move rest ih =>
      change ((machine.afterMove move).afterMoves rest).registers.timer timer = _
      rw [ih unset.2, timer_afterMove unset.1, lowered_lowered, List.countP_cons, Nat.add_comm]

/-- In a run from this machine the timer was last set to this value, and has been counted down so often
since; never set, it counts as set to zero at the start. -/
inductive LastSet (start : Machine) (timer : Timer) : List Move → UInt8 → Nat → Prop where
  | never {moves : List Move} (unset : start.NeverExecutes timer.setBy moves) :
      LastSet start timer moves 0 (moves.countP Move.countsDown)
  | set {earlier later : List Move} {move : Move} {x : Nat}
      (sets : (start.afterMoves earlier).executed? (.move move) = some (timer.setting x))
      (unset : ((start.afterMoves earlier).afterMove move).NeverExecutes timer.setBy later) :
      LastSet start timer (earlier ++ move :: later) ((start.afterMoves earlier).registers.value x)
        (later.countP Move.countsDown)

theorem LastSet.append_move {moves : List Move} {value : UInt8} {count : Nat}
    (last : machine.LastSet timer moves value count)
    (unset : ∀ instruction ∈ (machine.afterMoves moves).executed? (.move move),
      ¬timer.setBy instruction) :
    ∃ count, machine.LastSet timer (moves ++ [move]) value count := by
  cases last with
  | never before => exact ⟨_, .never (neverExecutes_concat.mpr ⟨before, unset⟩)⟩
  | @set earlier later setting x sets before =>
      rw [List.append_assoc, List.cons_append]
      refine ⟨_, .set sets (neverExecutes_concat.mpr ⟨before, ?_⟩)⟩
      rw [afterMoves, List.foldl_append] at unset
      exact unset

theorem exists_lastSet (machine : Machine) (timer : Timer) (moves : List Move) :
    ∃ value count, machine.LastSet timer moves value count := by
  induction moves using List.reverseRecOn with
  | nil => exact ⟨0, 0, .never trivial⟩
  | append_singleton moves move ih =>
      by_cases sets : ∃ x, (machine.afterMoves moves).executed? (.move move) = some (timer.setting x)
      · obtain ⟨x, executes⟩ := sets
        exact ⟨_, _, .set executes trivial⟩
      · obtain ⟨value, count, last⟩ := ih
        refine ⟨value, last.append_move fun instruction executes own => sets ?_⟩
        obtain ⟨x, rfl⟩ := Timer.exists_setting own
        exact ⟨x, executes⟩

theorem LastSet.toNat_timer {moves : List Move} {value : UInt8} {count : Nat}
    (last : machine.LastSet timer moves value count) (stopped : machine.registers.timer timer = 0) :
    ((machine.afterMoves moves).registers.timer timer).toNat = value.toNat - count := by
  cases last with
  | never unset => rw [timer_afterMoves unset, stopped, toNat_lowered]
  | @set earlier later move x sets unset =>
      have split : machine.afterMoves (earlier ++ move :: later) =
          ((machine.afterMoves earlier).afterMove move).afterMoves later := by
        rw [afterMoves, List.foldl_append]
        rfl
      rw [split, timer_afterMoves unset, timer_afterMove_of_setting sets, toNat_lowered]

/-- In every run from a load, and after any of its moves, a timer holds what it was last set to less the ticks
since, or zero if there have been more or it was never set. The delay timer is read by an instruction after
its own tick has been taken off. -/
theorem timers_measure_ticks {before loaded : Machine} {program : List UInt8}
    (accepted : before.load program = (.ok (), loaded)) (timer : Timer) (moves : List Move) :
    let machine := loaded.afterMoves moves
    (∃ value count, loaded.LastSet timer moves value count) ∧
      (∀ value count, loaded.LastSet timer moves value count →
        (machine.registers.timer timer).toNat = value.toNat - count) ∧
      ∀ value count, loaded.LastSet .delay moves value count →
        ∀ move x, machine.executed? (.move move) = some (.readDelay x) →
          ((machine.afterMove move).registers.value x).toNat =
            value.toNat - (count + if move.countsDown then 1 else 0) := by
  intro machine
  have stopped : ∀ timer, loaded.registers.timer timer = 0 := by
    intro timer
    rw [load_registers accepted]
    cases timer <;> rfl
  refine ⟨loaded.exists_lastSet timer moves, ?_, ?_⟩
  · intro value count last
    exact last.toNat_timer (stopped timer)
  · intro value count last move x reads
    have counted := last.toNat_timer (stopped .delay)
    rw [value_afterMove_of_readDelay reads, toNat_lowered]
    change (machine.registers.timer .delay).toNat - _ = _
    rw [counted, Nat.sub_sub]

/-- The delay timer is set to five and read on the second tick after that. -/
theorem delay_of_five_is_read_as_three :
    let before := powerOn 0
    let program : List UInt8 := [0x60, 0x05, 0xf0, 0x15, 0x70, 0x01, 0xf1, 0x07]
    let loaded := before.afterOperation (.load program)
    let moves : List Move := [.tick] ++ .tick :: [.tick, .key (.press 1)]
    let machine := loaded.afterMoves moves
    before.load program = (.ok (), loaded) ∧ loaded.LastSet .delay moves 5 1 ∧
      machine.registers.delay.toNat = 5 - 1 ∧
      machine.executed? (.move .tick) = some (.readDelay 1) ∧
      ((machine.afterMove .tick).registers.value 1).toNat = 5 - (1 + 1) := by
  intro before program loaded moves machine
  have accepted : before.load program = (.ok (), loaded) := before.load_of_fits (by decide)
  have written : (loaded.afterMoves [.tick]).registers.value 0 = 5 := by decide +kernel
  have sets : (loaded.afterMoves [.tick]).executed? (.move .tick) =
      some (Timer.setting 0 .delay) := by decide +kernel
  have unset : ((loaded.afterMoves [.tick]).afterMove .tick).NeverExecutes (Timer.setBy .delay)
      [.tick, .key (.press 1)] := by decide +kernel
  have reads : machine.executed? (.move .tick) = some (.readDelay 1) := by decide +kernel
  have last : loaded.LastSet .delay moves 5 1 := by
    have split : loaded.LastSet .delay moves _ _ := .set sets unset
    rw [written] at split
    exact split
  obtain ⟨_, holds, read⟩ := timers_measure_ticks accepted .delay moves
  exact ⟨accepted, last, holds 5 1 last, reads, read 5 1 last .tick 1 reads⟩

end Machine

end Chip8
