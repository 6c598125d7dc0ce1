import Chip8.Proofs.Operation
/-!
The timers apart from the rest of the machine. Counting down changes nothing else, and what a step does
depends on them only if it copies the delay timer to a register.
-/

namespace Chip8

namespace Registers

def withTimers (registers : Registers) (delay sound : UInt8) : Registers :=
  { registers with
    delay := delay
    sound := sound }

theorem putOutcome_withTimers (registers : Registers) (delay sound : UInt8) (x : Nat)
    (outcome : UInt8 × Option UInt8) :
    (registers.withTimers delay sound).putOutcome x outcome =
      (registers.putOutcome x outcome).withTimers delay sound := by
  obtain ⟨result, carry⟩ := outcome
  cases carry <;> rfl

theorem putRun_withTimers (registers : Registers) (delay sound : UInt8) (first : Nat)
    (bytes : List UInt8) :
    (registers.withTimers delay sound).putRun first bytes =
      (registers.putRun first bytes).withTimers delay sound := by
  induction bytes generalizing registers first with
  | nil => rfl
  | cons byte rest ih => exact ih (registers.put first byte) (first + 1)

end Registers

namespace Machine

def withTimers (machine : Machine) (delay sound : UInt8) : Machine :=
  { machine with registers := machine.registers.withTimers delay sound }

/-- Two machines that agree here agree in everything but their timers. -/
def timerless (machine : Machine) : Machine :=
  machine.withTimers 0 0

theorem eq_withTimers {first second : Machine} (same : first.timerless = second.timerless) :
    second = first.withTimers second.registers.delay second.registers.sound := by
  have restored := congrArg
    (fun machine => machine.withTimers second.registers.delay second.registers.sound) same
  exact restored.symm

theorem countDown_timerless (machine : Machine) :
    machine.countDown.1.timerless = machine.timerless := rfl

theorem afterKey_timerless {first second : Machine} (same : first.timerless = second.timerless)
    (operation : KeyOperation) :
    (first.afterKey operation).timerless = (second.afterKey operation).timerless := by
  rw [eq_withTimers same]
  rfl

/-! ### Counting down -/

def lowered (timer : UInt8) (count : Nat) : UInt8 :=
  UInt8.ofNat (timer.toNat - count)

theorem toNat_lowered (timer : UInt8) (count : Nat) :
    (lowered timer count).toNat = timer.toNat - count :=
  UInt8.toNat_ofNat_of_lt' (Nat.lt_of_le_of_lt (Nat.sub_le _ _) timer.toNat_lt)

theorem lowered_zero (timer : UInt8) : lowered timer 0 = timer :=
  UInt8.toNat_inj.mp (toNat_lowered timer 0)

theorem lowered_lowered (timer : UInt8) (first second : Nat) :
    lowered (lowered timer first) second = lowered timer (first + second) := by
  apply UInt8.toNat_inj.mp
  rw [toNat_lowered, toNat_lowered, toNat_lowered, Nat.sub_sub]

theorem lowered_eq_zero {timer : UInt8} {count : Nat} :
    lowered timer count = 0 ↔ timer.toNat ≤ count := by
  rw [← UInt8.toNat_inj, toNat_lowered]
  exact Nat.sub_eq_zero_iff_le

theorem ite_sub_one_eq_lowered (timer : UInt8) :
    (if timer = 0 then 0 else timer - 1) = lowered timer 1 := by
  apply UInt8.toNat_inj.mp
  rw [toNat_lowered]
  by_cases zero : timer = 0
  · rw [if_pos zero, zero]
    rfl
  · have positive : timer.toNat ≠ 0 := fun equal => zero (UInt8.toNat_inj.mp equal)
    rw [if_neg zero, UInt8.toNat_sub_of_le _ _ (Nat.pos_of_ne_zero positive)]
    rfl

def countedDown (machine : Machine) (count : Nat) : Machine :=
  machine.withTimers (lowered machine.registers.delay count) (lowered machine.registers.sound count)

theorem countedDown_delay (machine : Machine) (count : Nat) :
    (machine.countedDown count).registers.delay.toNat = machine.registers.delay.toNat - count :=
  toNat_lowered _ _

theorem countedDown_sound (machine : Machine) (count : Nat) :
    (machine.countedDown count).registers.sound.toNat = machine.registers.sound.toNat - count :=
  toNat_lowered _ _

theorem countedDown_zero (machine : Machine) : machine.countedDown 0 = machine := by
  rw [countedDown, lowered_zero, lowered_zero]
  rfl

theorem countedDown_countedDown (machine : Machine) (first second : Nat) :
    (machine.countedDown first).countedDown second = machine.countedDown (first + second) := by
  change machine.withTimers (lowered (lowered machine.registers.delay first) second)
    (lowered (lowered machine.registers.sound first) second) = _
  rw [lowered_lowered, lowered_lowered]
  rfl

theorem countDown_fst (machine : Machine) : machine.countDown.1 = machine.countedDown 1 := by
  change machine.withTimers (if machine.registers.delay = 0 then 0 else machine.registers.delay - 1)
    (if machine.registers.sound = 0 then 0 else machine.registers.sound - 1) = _
  rw [ite_sub_one_eq_lowered, ite_sub_one_eq_lowered]
  rfl

theorem countDownTimes_fst (machine : Machine) (count : Nat) :
    (machine.countDownTimes count).1 = machine.countedDown count := by
  induction count with
  | zero => exact machine.countedDown_zero.symm
  | succ count ih =>
      change (machine.countDownTimes count).1.countDown.1 = _
      rw [ih, countDown_fst, countedDown_countedDown]

/-! ### One step -/

variable (machine : Machine) (delay sound : UInt8)

theorem fault?_withTimers (instruction : Instruction) :
    (machine.withTimers delay sound).fault? instruction = machine.fault? instruction := by
  cases instruction <;> rfl

theorem perform_execute_withTimers (instruction : Instruction) :
    ((machine.withTimers delay sound).perform (execute instruction)).1 =
      (machine.perform (execute instruction)).1 := by
  rw [perform_execute, perform_execute, fault?_withTimers]
  cases machine.fault? instruction <;> rfl

theorem stepFault?_withTimers :
    (machine.withTimers delay sound).stepFault? = machine.stepFault? := by
  unfold stepFault?
  rw [fault?_withTimers]
  rfl

theorem perform_step_withTimers :
    ((machine.withTimers delay sound).perform step).1 = (machine.perform step).1 := by
  rw [perform_step, perform_step, stepFault?_withTimers]
  cases machine.stepFault? <;> rfl

theorem registersAfter_withTimers {instruction : Instruction}
    (unread : ∀ x, instruction ≠ .readDelay x) :
    ((machine.withTimers delay sound).registersAfter instruction).withTimers 0 0 =
      (machine.registersAfter instruction).withTimers 0 0 := by
  cases instruction with
  | readDelay x => exact absurd rfl (unread x)
  | alu operation x y =>
      change (((machine.registers.withTimers delay sound).putOutcome x _).advance 1).withTimers 0 0 =
        _
      rw [Registers.putOutcome_withTimers]
      rfl
  | awaitKey x =>
      unfold registersAfter
      dsimp only [withTimers]
      cases machine.keypad.firstDown awaitedKeys <;> rfl
  | loadRange x =>
      change (((machine.registers.withTimers delay sound).putRun 0 _).advance 1).withTimers 0 0 = _
      rw [Registers.putRun_withTimers]
      rfl
  | _ => rfl

theorem update_withTimers {instruction : Instruction} (unread : ∀ x, instruction ≠ .readDelay x) :
    ((machine.withTimers delay sound).update instruction).timerless =
      (machine.update instruction).timerless := by
  have registers := machine.registersAfter_withTimers delay sound unread
  have memory : (machine.withTimers delay sound).memoryAfter instruction =
      machine.memoryAfter instruction := by
    cases instruction <;> rfl
  have screen : (machine.withTimers delay sound).screenAfter instruction =
      machine.screenAfter instruction := by
    cases instruction <;> rfl
  have random : (machine.withTimers delay sound).randomAfter instruction =
      machine.randomAfter instruction := by
    cases instruction <;> rfl
  unfold timerless withTimers update
  dsimp only
  congr 1

/-- Unless it reads the delay timer, a step has the same effect whatever the timers are. -/
theorem stepped_withTimers (unread : ∀ x, (machine.perform step).1 ≠ .ok (.readDelay x)) :
    (machine.withTimers delay sound).stepped.timerless = machine.stepped.timerless := by
  unfold stepped
  rw [stepFault?_withTimers]
  cases found : machine.stepFault? with
  | some fault => rfl
  | none =>
      refine machine.update_withTimers delay sound ?_
      intro x reads
      refine unread x ?_
      rw [perform_step, found]
      exact congrArg Except.ok reads

end Machine

end Chip8
