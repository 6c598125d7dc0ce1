import Chip8.Proofs.ToneReplay
import Mathlib.Data.List.ReduceOption
/-!
The order in which signals can come. A beat may count the timers down any number of times and gives one
signal at most, so a stop may be lost behind a start. A stop still comes only right behind a start, and
while the sound timer runs the last signal is a start.
-/

namespace Chip8

namespace Tone

/-- Every stop comes right behind a start. -/
def StopsBehindStarts (heard : List Tone) : Prop :=
  ∀ before after, heard = before ++ .stop :: after → before.getLast? = some .start

namespace StopsBehindStarts

variable {heard : List Tone}

theorem nil : StopsBehindStarts [] := by
  intro before after split
  exact absurd split.symm (List.append_ne_nil_of_right_ne_nil before (List.cons_ne_nil _ _))

theorem concat (behind : StopsBehindStarts heard) {tone : Tone}
    (allowed : tone = .stop → heard.getLast? = some .start) :
    StopsBehindStarts (heard ++ [tone]) := by
  intro before after split
  rcases List.eq_nil_or_concat' after with rfl | ⟨earlier, final, rfl⟩
  · obtain ⟨rfl, same⟩ := List.append_inj' split rfl
    exact allowed (List.singleton_inj.mp same)
  · have regrouped : heard ++ [tone] = (before ++ .stop :: earlier) ++ [final] := by
      rw [split, List.append_assoc, List.cons_append]
    exact behind before earlier (List.append_inj' regrouped rfl).1

theorem head_eq_start (behind : StopsBehindStarts heard) {first : Tone}
    (begins : heard.head? = some first) : first = .start := by
  obtain ⟨rest, rfl⟩ := List.head?_eq_some_iff.mp begins
  cases first with
  | start => rfl
  | stop => cases behind [] rest rfl

theorem not_twice (behind : StopsBehindStarts heard) (before after : List Tone) :
    heard ≠ before ++ .stop :: .stop :: after := by
  intro twice
  have regrouped : heard = (before ++ [.stop]) ++ .stop :: after := by
    rw [twice, List.append_assoc, List.singleton_append]
  have last := behind _ _ regrouped
  rw [List.getLast?_concat] at last
  cases last

end StopsBehindStarts

end Tone

namespace Machine

def heard (machine : Machine) (turns : List Turn) : List Tone :=
  (machine.signals turns).reduceOption

theorem heard_append_singleton (machine : Machine) (turns : List Turn) (last : Turn) :
    machine.heard (turns ++ [last]) =
      machine.heard turns ++ ((machine.afterTurns turns).afterTurn last).2.toList := by
  rw [heard, signals_append_singleton, List.reduceOption_append, List.reduceOption_singleton]
  rfl

theorem beat_signal_eq_stop {machine : Machine} {count : Nat}
    (stops : (machine.beat count).2 = some .stop) :
    machine.registers.sound ≠ 0 ∧ (machine.beat count).1.registers.sound = 0 := by
  rw [beat_signal] at stops
  by_cases counted : (machine.countDownTimes count).1.registers.sound = 0
  · rw [if_neg (not_not_intro counted)] at stops
    by_cases next : (machine.beat count).1.registers.sound = 0
    · rw [if_neg (not_not_intro next)] at stops
      by_cases running : machine.registers.sound = 0
      · rw [if_neg (not_not_intro running)] at stops
        cases stops
      · exact ⟨running, next⟩
    · rw [if_pos next] at stops
      cases stops
  · rw [if_pos counted] at stops
    cases stops

theorem running_of_beat_silent {machine : Machine} {count : Nat}
    (silent : (machine.beat count).2 = none)
    (runs : (machine.beat count).1.registers.sound ≠ 0) : machine.registers.sound ≠ 0 := by
  intro zero
  have counted := countDownTimes_of_silent zero count
  rw [beat_signal, if_neg (not_not_intro counted), if_pos runs] at silent
  cases silent

/-- While the timer runs the last signal is a start. -/
def LastStarted (machine : Machine) (heard : List Tone) : Prop :=
  machine.registers.sound ≠ 0 → heard.getLast? = some .start

theorem beat_stopsBehindStarts {machine : Machine} {heard : List Tone}
    (behind : Tone.StopsBehindStarts heard) (started : machine.LastStarted heard) (count : Nat) :
    Tone.StopsBehindStarts (heard ++ (machine.beat count).2.toList) ∧
      (machine.beat count).1.LastStarted (heard ++ (machine.beat count).2.toList) := by
  cases signal : (machine.beat count).2 with
  | none =>
      rw [Option.toList_none, List.append_nil]
      exact ⟨behind, fun runs => started (running_of_beat_silent signal runs)⟩
  | some tone =>
      rw [Option.toList_some]
      cases tone with
      | start => exact ⟨behind.concat nofun, fun _ => List.getLast?_concat⟩
      | stop =>
          obtain ⟨running, zero⟩ := beat_signal_eq_stop signal
          exact ⟨behind.concat fun _ => started running, fun runs => absurd zero runs⟩

theorem heard_stopsBehindStarts {machine : Machine} (silent : machine.registers.sound = 0)
    (turns : List Turn) :
    Tone.StopsBehindStarts (machine.heard turns) ∧
      (machine.afterTurns turns).LastStarted (machine.heard turns) := by
  induction turns using List.reverseRecOn with
  | nil => exact ⟨.nil, fun runs => absurd silent runs⟩
  | append_singleton turns last ih =>
      rw [heard_append_singleton, afterTurns_append_singleton]
      cases last with
      | key operation =>
          rw [afterTurn, Option.toList_none, List.append_nil]
          exact ih
      | beat count => exact beat_stopsBehindStarts ih.1 ih.2 count

/-- After a load the first signal is a start, and no two stops come in a row. A beat that signals a stop
leaves the timer at zero, and while the timer runs the last signal is a start, also where the timer has
run out and been set again within a beat. -/
theorem signals_follow_grammar {machine loaded : Machine} {program : List UInt8}
    (accepted : machine.load program = (.ok (), loaded)) (turns : List Turn) :
    let heard := loaded.heard turns
    let now := loaded.afterTurns turns
    (∀ first, heard.head? = some first → first = .start) ∧
      (∀ before after, heard ≠ before ++ .stop :: .stop :: after) ∧
      (∀ count, (now.beat count).2 = some .stop → (now.beat count).1.registers.sound = 0) ∧
      (now.registers.sound ≠ 0 → heard.getLast? = some .start) := by
  intro heard now
  have silent : loaded.registers.sound = 0 := by
    rw [load_registers accepted]
    rfl
  obtain ⟨behind, started⟩ := heard_stopsBehindStarts silent turns
  exact ⟨fun _ begins => behind.head_eq_start begins, behind.not_twice,
    fun _ stops => (beat_signal_eq_stop stops).2, started⟩

/-- A tone of two sixtieths that is set anew in the beat in which it runs out: its stop is lost behind the
start, and the stop of the beat after next is heard. -/
theorem stop_lost_behind_start :
    let program : List UInt8 := [0x60, 0x02, 0xf0, 0x18, 0xf0, 0x18, 0x12, 0x04]
    let loaded := (powerOn 0).afterOperation (.load program)
    let turns : List Turn := [.beat 1, .beat 1, .key (.press 3), .beat 5]
    let now := loaded.afterTurns turns
    (powerOn 0).load program = (.ok (), loaded) ∧
      loaded.heard turns = [.start, .start] ∧ now.registers.sound ≠ 0 ∧
      (loaded.heard turns).getLast? = some .start ∧
      (now.beat 2).2 = some .stop ∧ (now.beat 2).1.registers.sound = 0 := by
  intro program loaded turns now
  have accepted : (powerOn 0).load program = (.ok (), loaded) := rfl
  have run : loaded.heard turns = [.start, .start] ∧ now.registers.sound ≠ 0 ∧
      (now.beat 2).2 = some .stop := by decide +kernel
  clear_value loaded
  dsimp only [turns, now] at run ⊢
  obtain ⟨signals, runs, stops⟩ := run
  have grammar := signals_follow_grammar accepted turns
  dsimp only [turns] at grammar
  obtain ⟨_, _, stops_at_zero, started⟩ := grammar
  exact ⟨accepted, signals, runs, started runs, stops, stops_at_zero 2 stops⟩

end Machine

end Chip8
