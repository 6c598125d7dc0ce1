import Chip8.Proofs.Timers
import Mathlib.Data.List.TakeWhile
/-!
Only the instruction that copies the delay timer to a register lets the timers be seen. Until it is
executed, two machines that differ in their timers execute the same instructions and meet the same
faults, however often each of them is counted down in between.
-/

namespace Chip8

/-! ### Runs -/

/-- A move without its count-down: instructions and keys are left. -/
def Move.untimed : Move → List Move
  | .countDown => []
  | .step | .cycle | .tick => [.cycle]
  | .key operation => [.key operation]

/-- What can be seen of an instruction that has been executed: which one it was or how it faulted, and
the machine behind it, timers left out. -/
@[ext]
structure Sight where
  outcome : Except Fault Instruction
  behind : Machine

def Sight.leavesDelayUnread (sight : Sight) : Bool :=
  match sight.outcome with
  | .ok (.readDelay _) => false
  | _ => true

namespace Machine

def sight (machine : Machine) : Sight :=
  { outcome := (machine.perform step).1
    behind := (machine.perform step).2.timerless }

def sights (machine : Machine) : List Move → List Sight
  | [] => []
  | .countDown :: rest => (machine.afterMove .countDown).sights rest
  | .step :: rest => machine.sight :: (machine.afterMove .step).sights rest
  | .cycle :: rest => machine.sight :: (machine.afterMove .cycle).sights rest
  | .tick :: rest => machine.countDown.1.sight :: (machine.afterMove .tick).sights rest
  | .key operation :: rest => (machine.afterMove (.key operation)).sights rest

theorem length_sights (machine : Machine) (moves : List Move) :
    (machine.sights moves).length = (moves.flatMap Move.untimed).count .cycle := by
  induction moves generalizing machine with
  | nil => rfl
  | cons move rest ih =>
      rw [List.flatMap_cons, List.count_append]
      cases move with
      | countDown | key operation => simp [sights, Move.untimed, ih]
      | step | cycle | tick => simp [sights, Move.untimed, ih, Nat.add_comm]

/-! ### Two machines -/

theorem sight_outcome {first second : Machine} (same : first.timerless = second.timerless) :
    second.sight.outcome = first.sight.outcome := by
  rw [eq_withTimers same]
  exact first.perform_step_withTimers _ _

theorem stepped_timerless {first second : Machine} (same : first.timerless = second.timerless)
    (unread : first.sight.leavesDelayUnread = true) :
    second.stepped.timerless = first.stepped.timerless := by
  rw [eq_withTimers same]
  refine first.stepped_withTimers _ _ ?_
  intro x reads
  change Sight.leavesDelayUnread ⟨(first.perform step).1, _⟩ = true at unread
  rw [reads] at unread
  cases unread

theorem behind_sight (machine : Machine) : machine.sight.behind = machine.stepped.timerless :=
  congrArg timerless machine.cycle_fst

theorem sight_eq {first second : Machine} (same : first.timerless = second.timerless)
    (unread : first.sight.leavesDelayUnread = true) : second.sight = first.sight := by
  refine Sight.ext (sight_outcome same) ?_
  rw [behind_sight, behind_sight, stepped_timerless same unread]

theorem leavesDelayUnread_sight {first second : Machine}
    (same : first.timerless = second.timerless) :
    second.sight.leavesDelayUnread = first.sight.leavesDelayUnread := by
  unfold Sight.leavesDelayUnread
  rw [sight_outcome same]

theorem takeWhile_sight_cons {first second : Machine} (same : first.timerless = second.timerless)
    {firstLater secondLater : List Sight}
    (later : first.stepped.timerless = second.stepped.timerless →
      firstLater.takeWhile Sight.leavesDelayUnread =
        secondLater.takeWhile Sight.leavesDelayUnread) :
    (first.sight :: firstLater).takeWhile Sight.leavesDelayUnread =
      (second.sight :: secondLater).takeWhile Sight.leavesDelayUnread := by
  have bothRead := leavesDelayUnread_sight same
  by_cases unread : first.sight.leavesDelayUnread = true
  · rw [List.takeWhile_cons_of_pos unread, List.takeWhile_cons_of_pos (bothRead.trans unread),
      later (stepped_timerless same unread).symm, sight_eq same unread]
  · rw [List.takeWhile_cons_of_neg unread,
      List.takeWhile_cons_of_neg fun other => unread (bothRead.symm.trans other)]

theorem takeWhile_sights_untimed {first second : Machine}
    (same : first.timerless = second.timerless) (moves : List Move) :
    (first.sights moves).takeWhile Sight.leavesDelayUnread =
      (second.sights (moves.flatMap Move.untimed)).takeWhile Sight.leavesDelayUnread := by
  induction moves generalizing first second with
  | nil => rfl
  | cons move rest ih =>
      have counted : first.countDown.1.timerless = second.timerless :=
        first.countDown_timerless.trans same
      have stepsTo : ∀ machine : Machine, machine.afterMove .cycle = machine.stepped := cycle_fst
      cases move with
      | countDown => exact ih counted
      | key operation => exact ih (afterKey_timerless same operation)
      | step | cycle =>
          refine takeWhile_sight_cons same fun next => ih ?_
          rw [stepsTo second, ← next]
          exact congrArg timerless first.cycle_fst
      | tick =>
          refine takeWhile_sight_cons counted fun next => ih ?_
          rw [stepsTo second, ← next]
          exact congrArg timerless first.tick_fst

/-- Two machines alike but for their timers run through the same instructions and keys, each counted
down at any times of its own. Up to the first instruction that reads the delay timer both show the same
instructions or faults and, behind each of them, the same machine; without such an instruction they do
so to the end. -/
theorem sights_independent_of_timers {first second : Machine}
    (same : first.timerless = second.timerless) {firstMoves secondMoves : List Move}
    (paced : firstMoves.flatMap Move.untimed = secondMoves.flatMap Move.untimed) :
    (first.sights firstMoves).takeWhile Sight.leavesDelayUnread =
        (second.sights secondMoves).takeWhile Sight.leavesDelayUnread ∧
      ((∀ sight ∈ first.sights firstMoves, sight.leavesDelayUnread = true) →
        first.sights firstMoves = second.sights secondMoves) := by
  have alike : (first.sights firstMoves).takeWhile Sight.leavesDelayUnread =
      (second.sights secondMoves).takeWhile Sight.leavesDelayUnread := by
    rw [takeWhile_sights_untimed same firstMoves, paced,
      ← takeWhile_sights_untimed (rfl : second.timerless = second.timerless) secondMoves]
  refine ⟨alike, ?_⟩
  intro unread
  have whole : first.sights firstMoves =
      (second.sights secondMoves).takeWhile Sight.leavesDelayUnread := by
    rw [← alike, List.takeWhile_eq_self_iff.mpr unread]
  have begins : first.sights firstMoves <+: second.sights secondMoves := by
    rw [whole]
    exact List.takeWhile_prefix _
  refine begins.eq_of_length ?_
  rw [length_sights, length_sights, paced]

/-- A program that sets both timers and counts, once with a count-down before each instruction, and once
with the timers running from the start and counted down at other times. -/
theorem counting_seen_alike :
    let loaded := (powerOn 0).afterOperation
      (.load [0x61, 0x05, 0xf1, 0x15, 0xf1, 0x18, 0x72, 0x01])
    let ticking : List Move := List.replicate 4 .tick
    let hurried : List Move := [.cycle, .countDown, .countDown, .cycle, .step, .countDown, .cycle]
    loaded.timerless = (loaded.withTimers 9 9).timerless ∧
      ticking.flatMap Move.untimed = hurried.flatMap Move.untimed ∧
      (∀ sight ∈ loaded.sights ticking, sight.leavesDelayUnread = true) ∧
      loaded.sights ticking = (loaded.withTimers 9 9).sights hurried := by
  intro loaded ticking hurried
  have same : loaded.timerless = (loaded.withTimers 9 9).timerless := rfl
  have paced : ticking.flatMap Move.untimed = hurried.flatMap Move.untimed := by decide
  have unread : ∀ sight ∈ loaded.sights ticking, sight.leavesDelayUnread = true := by
    decide +kernel
  exact ⟨same, paced, unread, (sights_independent_of_timers same paced).2 unread⟩

end Machine

end Chip8
