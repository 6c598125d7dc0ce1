import Chip8.Proofs.WellFormed
import Mathlib.Data.List.Basic
import Mathlib.Data.List.Induction
/-!
The signals of a run, replayed on a device. A device that hears them plays while the sound timer
runs, with one exception: an instruction that sets a running timer to zero gives no signal, so the
device plays on until the timer is set again.
-/

namespace Chip8

/-- What is done with a machine while it runs: a beat, which is `Machine.tick` if the timers are
counted down once, or something with the keys. -/
inductive Turn where
  | beat (count : Nat)
  | key (operation : KeyOperation)
  deriving DecidableEq, Repr

namespace Tone

def switched (playing : Bool) : Option Tone → Bool
  | none => playing
  | some .start => true
  | some .stop => false

def replayed (signals : List (Option Tone)) : Bool :=
  signals.foldl switched false

theorem replayed_append_singleton (signals : List (Option Tone)) (last : Option Tone) :
    replayed (signals ++ [last]) = switched (replayed signals) last :=
  List.foldl_concat switched false last signals

end Tone

namespace Machine

def afterTurn (machine : Machine) : Turn → Machine × Option Tone
  | .beat count => machine.beat count
  | .key operation => (machine.afterKey operation, none)

def afterTurns (machine : Machine) (turns : List Turn) : Machine :=
  turns.foldl (fun before turn => (before.afterTurn turn).1) machine

def signals (machine : Machine) : List Turn → List (Option Tone)
  | [] => []
  | turn :: rest =>
      let next := machine.afterTurn turn
      next.2 :: next.1.signals rest

theorem afterTurns_append_singleton (machine : Machine) (turns : List Turn) (last : Turn) :
    machine.afterTurns (turns ++ [last]) = ((machine.afterTurns turns).afterTurn last).1 :=
  List.foldl_concat _ machine last turns

theorem signals_append_singleton (machine : Machine) (turns : List Turn) (last : Turn) :
    machine.signals (turns ++ [last]) =
      machine.signals turns ++ [((machine.afterTurns turns).afterTurn last).2] := by
  induction turns generalizing machine with
  | nil => rfl
  | cons turn rest ih =>
      rw [List.cons_append, signals, ih]
      rfl

/-! ### The sound timer -/

/-- The instruction at the program counter writes zero over a sound timer that is running. -/
def Cuts (machine : Machine) : Prop :=
  machine.registers.sound ≠ 0 ∧ Memory.Fits machine.registers.pc 2 ∧
    ∃ x < 16, machine.current = .setSound x ∧ machine.registers.value x = 0

theorem registersAfter_sound (machine : Machine) (instruction : Instruction) :
    (machine.registersAfter instruction).sound =
      match instruction with
      | .setSound x => machine.registers.value x
      | _ => machine.registers.sound := by
  cases instruction with
  | alu operation x y => rw [machine.registersAfter_of_plain (.alu operation x y) trivial]
  | awaitKey x => rw [machine.registersAfter_of_plain (.awaitKey x) trivial]
  | loadRange x => rw [machine.registersAfter_of_plain (.loadRange x) trivial]
  | _ => rfl

theorem stepped_sound_eq_zero {machine : Machine} (running : machine.registers.sound ≠ 0) :
    machine.stepped.registers.sound = 0 ↔ machine.Cuts := by
  rcases machine.stepped_cases with ⟨fits, passed, updated⟩ | ⟨failed, unchanged⟩
  · have sound := machine.registersAfter_sound machine.current
    rw [updated]
    change (machine.registersAfter machine.current).sound = 0 ↔ _
    rw [sound]
    cases found : machine.current with
    | setSound x =>
        dsimp only
        have inside : x < 16 := by
          have inRange := machine.current_operandsInRange
          rw [found] at inRange
          exact inRange
        constructor
        · intro zero
          exact ⟨running, fits, x, inside, found, zero⟩
        · rintro ⟨_, _, other, _, same, zero⟩
          rw [found] at same
          cases same
          exact zero
    | _ =>
        dsimp only
        constructor
        · intro zero
          exact absurd zero running
        · rintro ⟨_, _, other, _, same, _⟩
          rw [found] at same
          cases same
  · rw [unchanged]
    constructor
    · intro zero
      exact absurd zero running
    · rintro ⟨_, fits, x, inside, found, _⟩
      exfalso
      apply failed
      rw [stepFault?_eq_none, found]
      exact ⟨fits, Registers.fault?_of_lt inside⟩

theorem countDownTimes_of_silent {machine : Machine} (silent : machine.registers.sound = 0)
    (count : Nat) : (machine.countDownTimes count).1.registers.sound = 0 := by
  induction count with
  | zero => exact silent
  | succ count ih => exact if_pos ih

theorem countDownTimes_signal (machine : Machine) (count : Nat) :
    (machine.countDownTimes count).2 =
      if machine.registers.sound ≠ 0 ∧ (machine.countDownTimes count).1.registers.sound = 0 then
        some .stop
      else none := by
  induction count with
  | zero =>
      have steady : ¬(machine.registers.sound ≠ 0 ∧ machine.registers.sound = 0) :=
        fun both => both.1 both.2
      exact (if_neg steady).symm
  | succ count ih =>
      have next : (machine.countDownTimes (count + 1)).1.registers.sound =
          if (machine.countDownTimes count).1.registers.sound = 0 then 0
          else (machine.countDownTimes count).1.registers.sound - 1 := rfl
      have signal : (machine.countDownTimes (count + 1)).2 =
          (if (machine.countDownTimes count).1.registers.sound = 1 then some Tone.stop
            else none).or (machine.countDownTimes count).2 := rfl
      rw [signal, next, ih]
      by_cases still : (machine.countDownTimes count).1.registers.sound = 0
      · rw [still]
        rfl
      · have running : machine.registers.sound ≠ 0 := by
          intro silent
          exact still (countDownTimes_of_silent silent count)
        by_cases last : (machine.countDownTimes count).1.registers.sound = 1
        · rw [last]
          simp [running]
        · have more : (machine.countDownTimes count).1.registers.sound - 1 ≠ 0 := by
            intro zero
            have back := UInt8.sub_add_cancel (machine.countDownTimes count).1.registers.sound 1
            rw [zero] at back
            exact last back.symm
          simp [still, last, more]

theorem beat_signal (machine : Machine) (count : Nat) :
    (machine.beat count).2 =
      if (machine.countDownTimes count).1.registers.sound ≠ 0 then none
      else if (machine.beat count).1.registers.sound ≠ 0 then some .start
      else if machine.registers.sound ≠ 0 then some .stop
      else none := by
  have signal : (machine.beat count).2 =
      (if (machine.countDownTimes count).1.registers.sound = 0 ∧
          (machine.beat count).1.registers.sound ≠ 0 then some Tone.start
        else none).or (machine.countDownTimes count).2 := rfl
  rw [signal, countDownTimes_signal]
  by_cases counted : (machine.countDownTimes count).1.registers.sound = 0
  · by_cases next : (machine.beat count).1.registers.sound = 0
    · simp [counted, next]
    · simp [counted, next]
  · simp [counted]

/-! ### Replay -/

/-- A beat has set the running timer to zero, and it has stood at zero ever since. -/
def SilencedByWrite (machine : Machine) (turns : List Turn) : Prop :=
  ∃ before count after, turns = before ++ .beat count :: after ∧
    ((machine.afterTurns before).countDownTimes count).1.Cuts ∧
    ∀ later, later <+: after →
      (machine.afterTurns (before ++ .beat count :: later)).registers.sound = 0

theorem beat_fst (machine : Machine) (count : Nat) :
    (machine.beat count).1 = (machine.countDownTimes count).1.stepped :=
  (machine.countDownTimes count).1.cycle_fst

theorem SilencedByWrite.sound_eq_zero {machine : Machine} {turns : List Turn}
    (silenced : machine.SilencedByWrite turns) :
    (machine.afterTurns turns).registers.sound = 0 := by
  obtain ⟨before, count, after, rfl, _, zero⟩ := silenced
  exact zero after List.prefix_rfl

theorem not_silencedByWrite_nil (machine : Machine) : ¬machine.SilencedByWrite [] := by
  rintro ⟨before, count, after, split, _⟩
  exact List.append_ne_nil_of_right_ne_nil before (List.cons_ne_nil _ _) split.symm

theorem silencedByWrite_append_singleton (machine : Machine) (turns : List Turn) (last : Turn) :
    machine.SilencedByWrite (turns ++ [last]) ↔
      (∃ count, last = .beat count ∧
          ((machine.afterTurns turns).countDownTimes count).1.Cuts) ∨
        (machine.SilencedByWrite turns ∧
          (machine.afterTurns (turns ++ [last])).registers.sound = 0) := by
  constructor
  · rintro ⟨before, count, after, split, cuts, zero⟩
    rcases List.eq_nil_or_concat' after with rfl | ⟨earlier, final, rfl⟩
    · obtain ⟨rfl, same⟩ := List.append_inj' split rfl
      exact Or.inl ⟨count, List.singleton_inj.mp same, cuts⟩
    · have regrouped : turns ++ [last] = (before ++ .beat count :: earlier) ++ [final] := by
        rw [split, List.append_assoc, List.cons_append]
      obtain ⟨rfl, same⟩ := List.append_inj' regrouped rfl
      refine Or.inr ⟨⟨before, count, earlier, rfl, cuts, ?_⟩, ?_⟩
      · intro later begins
        exact zero later (begins.trans (List.prefix_append earlier [final]))
      · rw [split]
        exact zero _ List.prefix_rfl
  · rintro (⟨count, rfl, cuts⟩ | ⟨⟨before, count, after, rfl, cuts, zero⟩, zeroLast⟩)
    · refine ⟨turns, count, [], rfl, cuts, ?_⟩
      intro later begins
      rw [List.prefix_nil.mp begins, afterTurns_append_singleton]
      change ((machine.afterTurns turns).beat count).1.registers.sound = 0
      rw [beat_fst]
      exact (stepped_sound_eq_zero cuts.1).mpr cuts
    · have regrouped : (before ++ .beat count :: after) ++ [last] =
          before ++ .beat count :: (after ++ [last]) := by
        rw [List.append_assoc, List.cons_append]
      refine ⟨before, count, after ++ [last], regrouped, cuts, ?_⟩
      intro later begins
      rcases List.prefix_concat_iff.mp begins with rfl | within
      · rw [← regrouped]
        exact zeroLast
      · exact zero later within

theorem switched_beat {machine : Machine} {playing : Bool} {left : Prop} (count : Nat)
    (follows : playing = true ↔ machine.registers.sound ≠ 0 ∨ left)
    (left_silent : left → machine.registers.sound = 0) :
    Tone.switched playing (machine.beat count).2 = true ↔
      (machine.beat count).1.registers.sound ≠ 0 ∨ (machine.countDownTimes count).1.Cuts ∨
        left ∧ (machine.beat count).1.registers.sound = 0 := by
  rw [beat_signal]
  by_cases counted : (machine.countDownTimes count).1.registers.sound = 0
  · have uncut : ¬(machine.countDownTimes count).1.Cuts := fun cuts => cuts.1 counted
    by_cases next : (machine.beat count).1.registers.sound = 0
    · by_cases zero : machine.registers.sound = 0
      · simp [counted, next, zero, uncut, Tone.switched, follows]
      · have notLeft : ¬left := fun still => zero (left_silent still)
        simp [counted, next, zero, uncut, notLeft, Tone.switched]
    · simp [counted, next, Tone.switched]
  · have running : machine.registers.sound ≠ 0 := by
      intro zero
      exact counted (countDownTimes_of_silent zero count)
    have plays : playing = true := follows.mpr (Or.inl running)
    have cut := stepped_sound_eq_zero counted
    rw [← beat_fst] at cut
    rw [if_pos counted, ← cut]
    by_cases next : (machine.beat count).1.registers.sound = 0
    · simp [next, plays, Tone.switched]
    · simp [next, plays, Tone.switched]

theorem replayed_signals {machine : Machine} (silent : machine.registers.sound = 0)
    (turns : List Turn) :
    Tone.replayed (machine.signals turns) = true ↔
      (machine.afterTurns turns).registers.sound ≠ 0 ∨ machine.SilencedByWrite turns := by
  induction turns using List.reverseRecOn with
  | nil =>
      constructor
      · intro plays
        cases plays
      · rintro (running | silenced)
        · exact absurd silent running
        · exact absurd silenced machine.not_silencedByWrite_nil
  | append_singleton turns last ih =>
      have left_silent : machine.SilencedByWrite turns →
          (machine.afterTurns turns).registers.sound = 0 := SilencedByWrite.sound_eq_zero
      rw [signals_append_singleton, Tone.replayed_append_singleton,
        silencedByWrite_append_singleton, afterTurns_append_singleton]
      cases last with
      | key operation =>
          have noBeat : ¬∃ count, Turn.key operation = .beat count ∧
              ((machine.afterTurns turns).countDownTimes count).1.Cuts := by
            rintro ⟨count, impossible, _⟩
            cases impossible
          change Tone.replayed (machine.signals turns) = true ↔
            (machine.afterTurns turns).registers.sound ≠ 0 ∨ _ ∨
              _ ∧ (machine.afterTurns turns).registers.sound = 0
          rw [ih, or_iff_right noBeat, and_iff_left_of_imp left_silent]
      | beat count =>
          have thisBeat : (∃ other, Turn.beat count = .beat other ∧
              ((machine.afterTurns turns).countDownTimes other).1.Cuts) ↔
                ((machine.afterTurns turns).countDownTimes count).1.Cuts := by
            simp
          rw [thisBeat]
          exact switched_beat count ih left_silent

/-- After a load, a device that hears every signal plays while the sound timer runs. It also plays
where the timer has last been stopped by a written zero, and only there it is wrong. -/
theorem plays_iff_sound_runs {machine loaded : Machine} {program : List UInt8}
    (accepted : machine.load program = (.ok (), loaded)) (turns : List Turn) :
    (Tone.replayed (loaded.signals turns) = true ↔
        (loaded.afterTurns turns).registers.sound ≠ 0 ∨ loaded.SilencedByWrite turns) ∧
      ((Tone.replayed (loaded.signals turns) = true ↔
          (loaded.afterTurns turns).registers.sound ≠ 0) ↔
        ¬loaded.SilencedByWrite turns) := by
  have silent : loaded.registers.sound = 0 := by
    rw [load_registers accepted]
    rfl
  have plays := replayed_signals silent turns
  refine ⟨plays, ?_⟩
  constructor
  · intro follows silenced
    exact follows.mp (plays.mpr (Or.inr silenced)) silenced.sound_eq_zero
  · intro awake
    rw [plays, or_iff_left awake]

/-- Two ticks set the timer to five, and two more set it to zero: the device plays on. -/
theorem plays_after_written_zero :
    ∃ loaded, (powerOn 0).load [0x60, 0x05, 0xf0, 0x18, 0x60, 0x00, 0xf0, 0x18] = (.ok (), loaded) ∧
      Tone.replayed (loaded.signals (List.replicate 4 (.beat 1))) = true ∧
      (loaded.afterTurns (List.replicate 4 (.beat 1))).registers.sound = 0 := by
  refine ⟨_, rfl, ?_, ?_⟩
  · decide +kernel
  · decide +kernel

theorem not_silencedByWrite_of_three_ticks :
    ∃ loaded, (powerOn 0).load [0x61, 0x02, 0xf1, 0x18, 0x12, 0x04] = (.ok (), loaded) ∧
      Tone.replayed (loaded.signals (List.replicate 3 (.beat 1))) = true ∧
      (loaded.afterTurns (List.replicate 3 (.beat 1))).registers.sound ≠ 0 ∧
      ¬loaded.SilencedByWrite (List.replicate 3 (.beat 1)) := by
  have accepted : (powerOn 0).load [0x61, 0x02, 0xf1, 0x18, 0x12, 0x04] = (.ok (), _) := rfl
  refine ⟨_, accepted, ?plays, ?runs,
    (plays_iff_sound_runs accepted _).2.mp (iff_of_true ?plays ?runs)⟩
  case plays => decide +kernel
  case runs => decide +kernel

end Machine

end Chip8
