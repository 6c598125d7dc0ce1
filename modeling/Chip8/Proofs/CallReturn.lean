import Chip8.Proofs.RandomWords
import Chip8.Proofs.Timers
/-!
Calls and returns over whole runs. A call leaves its own address in the next slot of the stack. Until it
is returned from, nothing touches that slot or the ones below it, whatever the program does in between,
so the return comes out behind the call.
-/

namespace Chip8

namespace Registers

theorem slot_pushed (registers : Registers) (address : UInt16) (number : Nat) :
    (registers.pushed address).slot number =
      if number = registers.depth ∧ registers.depth < 16 then address
      else registers.slot number :=
  registers.slot_setIfInBounds registers.depth address number

/-- A call made from `caller` has not been returned from: its address stands in its slot, and below it
the slots are those of the calls around it. -/
structure CallerFrame (caller current : Registers) : Prop where
  depth_lt : caller.depth < current.depth
  slot_eq : ∀ number < caller.depth, current.slot number = caller.slot number
  own_eq : current.slot caller.depth = caller.pc

namespace CallerFrame

variable {caller current next : Registers}

theorem of_stack_eq (frame : caller.CallerFrame current) (stack : next.stack = current.stack)
    (depth : next.depth = current.depth) : caller.CallerFrame next := by
  have slot : next.slot = current.slot := by
    funext number
    rw [Registers.slot, Registers.slot, stack]
  obtain ⟨depth_lt, slot_eq, own_eq⟩ := frame
  rw [← depth] at depth_lt
  rw [← slot] at slot_eq own_eq
  exact ⟨depth_lt, slot_eq, own_eq⟩

theorem of_call (room : caller.depth < 16) (target : UInt16) :
    caller.CallerFrame ((caller.pushed caller.pc).jump target) where
  depth_lt := Nat.lt_succ_self caller.depth
  slot_eq := by
    intro number below
    have elsewhere : ¬(number = caller.depth ∧ caller.depth < 16) := fun own =>
      Nat.ne_of_lt below own.1
    exact (caller.slot_pushed caller.pc number).trans (if_neg elsewhere)
  own_eq := (caller.slot_pushed caller.pc caller.depth).trans (if_pos ⟨rfl, room⟩)

theorem pushed (frame : caller.CallerFrame current) (address target : UInt16) :
    caller.CallerFrame ((current.pushed address).jump target) := by
  have above := frame.depth_lt
  have kept : ∀ number ≤ caller.depth,
      (current.pushed address).slot number = current.slot number := by
    intro number below
    have elsewhere : ¬(number = current.depth ∧ current.depth < 16) := by omega
    rw [slot_pushed, if_neg elsewhere]
  refine ⟨Nat.lt_succ_of_lt above, ?_, ?_⟩
  · intro number below
    exact (kept number (Nat.le_of_lt below)).trans (frame.slot_eq number below)
  · exact (kept caller.depth (Nat.le_refl _)).trans frame.own_eq

end CallerFrame

end Registers

namespace Machine

/-! ### One instruction -/

theorem registersAfter_stack (machine : Machine) {instruction : Instruction}
    (noCall : ∀ target, instruction ≠ .call target) (noReturn : instruction ≠ .ret) :
    (machine.registersAfter instruction).stack = machine.registers.stack ∧
      (machine.registersAfter instruction).depth = machine.registers.depth := by
  by_cases plain : instruction.Plain
  · rw [machine.registersAfter_of_plain instruction plain]
    exact ⟨rfl, rfl⟩
  · cases instruction with
    | call target => exact absurd rfl (noCall target)
    | ret => exact absurd rfl noReturn
    | setIndex _ | addIndex _ | pointAtGlyph _ | setDelay _ | setSound _ => exact ⟨rfl, rfl⟩
    | _ => exact absurd trivial plain

theorem stepped_of_fetched? {machine : Machine} {instruction : Instruction}
    (fetched : machine.fetched? = some instruction) :
    machine.stepped =
      match machine.fault? instruction with
      | none => machine.update instruction
      | some _ => machine := by
  rw [fetched?_eq] at fetched
  by_cases fits : Memory.Fits machine.registers.pc 2
  · rw [if_pos fits] at fetched
    obtain rfl : machine.current = instruction := Option.some.inj fetched
    have readable : Memory.fault? machine.registers.pc 2 = none := if_pos fits
    rw [stepped, stepFault?, readable]
    rfl
  · rw [if_neg fits] at fetched
    cases fetched

theorem fault?_ret_of_used {machine : Machine} (used : machine.registers.depth ≠ 0)
    (bounded : machine.registers.depth ≤ 16) : machine.fault? .ret = none := by
  have inside : machine.registers.depth - 1 < 16 := by omega
  rw [fault?, if_neg used, if_pos inside]

variable {caller : Registers}

/-- Only the return that belongs to the call gives up its slot. -/
theorem registersAfter_callerFrame {machine : Machine}
    (frame : caller.CallerFrame machine.registers) {instruction : Instruction}
    (unreturned : instruction = .ret → machine.registers.depth ≠ caller.depth + 1) :
    caller.CallerFrame (machine.registersAfter instruction) := by
  by_cases returns : instruction = .ret
  · have other := unreturned returns
    have above := frame.depth_lt
    have deeper : caller.depth < machine.registers.depth - 1 := by omega
    subst returns
    exact ⟨deeper, frame.slot_eq, frame.own_eq⟩
  · by_cases calls : ∃ target, instruction = .call target
    · obtain ⟨target, rfl⟩ := calls
      exact frame.pushed machine.registers.pc target
    · obtain ⟨stack, depth⟩ := machine.registersAfter_stack (not_exists.mp calls) returns
      exact frame.of_stack_eq stack depth

theorem stepped_callerFrame {machine : Machine} (frame : caller.CallerFrame machine.registers)
    (unreturned : machine.fetched? = some .ret → machine.registers.depth ≠ caller.depth + 1) :
    caller.CallerFrame machine.stepped.registers := by
  rcases machine.stepped_cases with ⟨fits, _, updated⟩ | ⟨_, unchanged⟩
  · rw [updated]
    refine registersAfter_callerFrame frame fun returns => unreturned ?_
    rw [fetched?_eq, if_pos fits, returns]
  · rw [unchanged]
    exact frame

/-! ### One move -/

def ReturnsAt (machine : Machine) (depth : Nat) (move : Move) : Prop :=
  machine.executed? (.move move) = some .ret ∧ machine.registers.depth = depth

instance (machine : Machine) (depth : Nat) (move : Move) :
    Decidable (machine.ReturnsAt depth move) :=
  inferInstanceAs (Decidable (_ ∧ _))

theorem eq_withTimers_of_stepping? {machine before : Machine} {move : Move}
    (steps : machine.stepping? move = some before) :
    ∃ delay sound, before = machine.withTimers delay sound := by
  cases move with
  | step | cycle | tick =>
      cases steps
      exact ⟨_, _, rfl⟩
  | countDown | key operation => cases steps

theorem afterMove_of_executed? {machine : Machine} {move : Move} {instruction : Instruction}
    (executes : machine.executed? (.move move) = some instruction) :
    ∃ delay sound,
      machine.afterMove move =
        match machine.fault? instruction with
        | none => (machine.withTimers delay sound).update instruction
        | some _ => machine.withTimers delay sound := by
  obtain ⟨before, steps, fetched⟩ := Option.bind_eq_some_iff.mp executes
  obtain ⟨delay, sound, rfl⟩ := eq_withTimers_of_stepping? steps
  refine ⟨delay, sound, ?_⟩
  rw [(afterMove_of_stepping? steps).1, stepped_of_fetched? fetched, fault?_withTimers]

theorem afterMove_callerFrame {machine : Machine} (frame : caller.CallerFrame machine.registers)
    {move : Move} (unreturned : ¬machine.ReturnsAt (caller.depth + 1) move) :
    caller.CallerFrame (machine.afterMove move).registers := by
  cases steps : machine.stepping? move with
  | none =>
      cases move with
      | countDown | key operation => exact frame.of_stack_eq rfl rfl
      | step | cycle | tick => cases steps
  | some before =>
      obtain ⟨delay, sound, rfl⟩ := eq_withTimers_of_stepping? steps
      rw [(afterMove_of_stepping? steps).1]
      refine stepped_callerFrame (frame.of_stack_eq rfl rfl) fun returns depth => ?_
      refine unreturned ⟨?_, depth⟩
      rw [executed?, steps]
      exact returns

theorem afterMove_of_call {machine : Machine} (room : machine.registers.depth < 16) {call : Move}
    {target : UInt16} (calls : machine.executed? (.move call) = some (.call target)) :
    (machine.afterMove call).registers.depth = machine.registers.depth + 1 ∧
      machine.registers.CallerFrame (machine.afterMove call).registers := by
  have passed : machine.fault? (.call target) = none := if_neg (Nat.not_le.mpr room)
  obtain ⟨delay, sound, led⟩ := afterMove_of_executed? calls
  rw [led, passed]
  exact ⟨rfl, (Registers.CallerFrame.of_call room target).of_stack_eq rfl rfl⟩

theorem afterMove_of_return {machine : Machine} (frame : caller.CallerFrame machine.registers)
    (room : caller.depth < 16) {move : Move}
    (returns : machine.ReturnsAt (caller.depth + 1) move) :
    (machine.afterMove move).registers.pc.toNat = (caller.pc.toNat + 2) % 4096 ∧
      (machine.afterMove move).registers.depth = caller.depth := by
  obtain ⟨executes, depth⟩ := returns
  have passed : machine.fault? .ret = none := fault?_ret_of_used (by omega) (by omega)
  have popped : machine.registers.depth - 1 = caller.depth := by
    rw [depth, Nat.add_sub_cancel]
  obtain ⟨delay, sound, led⟩ := afterMove_of_executed? executes
  have registers : (machine.afterMove move).registers =
      ((machine.registers.withTimers delay sound).popped.jump
        (machine.registers.slot (machine.registers.depth - 1))).advance 1 := by
    rw [led, passed]
    rfl
  rw [registers, popped, frame.own_eq]
  constructor
  · rw [Registers.toNat_advance_pc, Registers.toNat_jump_pc]
    exact Nat.mod_add_mod caller.pc.toNat 4096 2
  · exact popped

/-- There is no slot for a call to take, or none for a return to give up. -/
inductive StackRefuses (machine : Machine) : Instruction → Prop where
  | call {target : UInt16} (full : machine.registers.depth = 16) :
      StackRefuses machine (.call target)
  | ret (empty : machine.registers.depth = 0) : StackRefuses machine .ret

theorem StackRefuses.fault?_eq_some {machine : Machine} {instruction : Instruction}
    (refuses : machine.StackRefuses instruction) : ∃ fault, machine.fault? instruction = some fault := by
  cases refuses with
  | call full => exact ⟨_, if_pos (Nat.le_of_eq full.symm)⟩
  | ret empty => exact ⟨_, if_pos empty⟩

theorem afterMove_of_refused {machine : Machine} {move : Move} {instruction : Instruction}
    (executes : machine.executed? (.move move) = some instruction)
    (refuses : machine.StackRefuses instruction) :
    ∃ delay sound, machine.afterMove move = machine.withTimers delay sound := by
  obtain ⟨fault, failed⟩ := refuses.fault?_eq_some
  obtain ⟨delay, sound, led⟩ := afterMove_of_executed? executes
  rw [failed] at led
  exact ⟨delay, sound, led⟩

/-! ### Runs -/

def NeverReturnsAt (depth : Nat) (machine : Machine) : List Move → Prop
  | [] => True
  | move :: rest =>
      ¬machine.ReturnsAt depth move ∧ (machine.afterMove move).NeverReturnsAt depth rest

instance decidableNeverReturnsAt (depth : Nat) (machine : Machine) :
    (moves : List Move) → Decidable (machine.NeverReturnsAt depth moves)
  | [] => inferInstanceAs (Decidable True)
  | move :: rest =>
      have := (machine.afterMove move).decidableNeverReturnsAt depth rest
      inferInstanceAs (Decidable (_ ∧ _))

theorem afterMoves_callerFrame {machine : Machine} (frame : caller.CallerFrame machine.registers)
    {moves : List Move} (unreturned : machine.NeverReturnsAt (caller.depth + 1) moves) :
    caller.CallerFrame (machine.afterMoves moves).registers := by
  induction moves generalizing machine with
  | nil => exact frame
  | cons move rest ih => exact ih (afterMove_callerFrame frame unreturned.1) unreturned.2

/-- A call that finds a free slot is returned from behind itself. Until a return is executed with one slot
more in use than before the call, at least that many stay in use, the slots that were in use keep their
addresses, and the one above them holds the address of the call; that return goes on behind the call, with
the old number of slots. Calls with every slot in use and returns with none change neither the stack nor
the program counter, at any time. -/
theorem call_is_returned_behind (machine : Machine) (room : machine.registers.depth < 16)
    {call : Move} {target : UInt16}
    (calls : machine.executed? (.move call) = some (.call target)) :
    let caller := machine.registers
    let called := machine.afterMove call
    called.registers.depth = caller.depth + 1 ∧
      (∀ moves, called.NeverReturnsAt (caller.depth + 1) moves →
        let later := called.afterMoves moves
        caller.CallerFrame later.registers ∧
          ∀ move, later.ReturnsAt (caller.depth + 1) move →
            (later.afterMove move).registers.pc.toNat = (caller.pc.toNat + 2) % 4096 ∧
              (later.afterMove move).registers.depth = caller.depth) ∧
      ∀ moves move instruction,
        let later := called.afterMoves moves
        let next := later.afterMove move
        later.executed? (.move move) = some instruction → later.StackRefuses instruction →
          next.registers.stack = later.registers.stack ∧
            next.registers.depth = later.registers.depth ∧
            next.registers.pc = later.registers.pc := by
  intro caller called
  obtain ⟨deeper, begins⟩ := afterMove_of_call room calls
  refine ⟨deeper, ?_, ?_⟩
  · intro moves unreturned later
    have frame : caller.CallerFrame later.registers := afterMoves_callerFrame begins unreturned
    exact ⟨frame, fun move returns => afterMove_of_return frame room returns⟩
  · intro moves move instruction later next executes refuses
    obtain ⟨delay, sound, same⟩ := afterMove_of_refused executes refuses
    have left : next = later.withTimers delay sound := same
    rw [left]
    exact ⟨rfl, rfl, rfl⟩

/-- A call inside a call: the inner return leaves the outer frame alone, the outer one comes out behind the
outer call, and a third return finds no slot in use. -/
theorem inner_call_keeps_outer_frame :
    let machine := (powerOn 0).afterOperation
      (.load [0x22, 0x06, 0x00, 0xee, 0x00, 0xee, 0x22, 0x04, 0x00, 0xee])
    let called := machine.afterMove .tick
    let inner := called.afterMoves [.tick, .key (.press 3), .step]
    let emptied := called.afterMoves [.tick, .key (.press 3), .step, .cycle]
    machine.executed? (.move .tick) = some (.call 0x206) ∧
      called.NeverReturnsAt 1 [.tick, .key (.press 3), .step] ∧
      inner.registers.slot 0 = 0x200 ∧
      inner.ReturnsAt 1 .cycle ∧ (inner.afterMove .cycle).registers.pc.toNat = 0x202 ∧
      emptied.executed? (.move .tick) = some .ret ∧
      (emptied.afterMove .tick).registers.pc = emptied.registers.pc := by
  intro machine called inner emptied
  have caller : machine.registers.depth = 0 ∧ machine.registers.pc = 0x200 ∧
      machine.executed? (.move .tick) = some (.call 0x206) := by decide +kernel
  have run : called.NeverReturnsAt 1 [.tick, .key (.press 3), .step] ∧
      inner.ReturnsAt 1 .cycle ∧ emptied.executed? (.move .tick) = some .ret ∧
      emptied.registers.depth = 0 := by decide +kernel
  clear_value machine
  dsimp only [called, inner, emptied] at run ⊢
  obtain ⟨empty, start, calls⟩ := caller
  obtain ⟨unreturned, returns, again, unused⟩ := run
  have room : machine.registers.depth < 16 := by
    rw [empty]
    decide
  have discipline := call_is_returned_behind machine room calls
  dsimp only at discipline
  rw [empty, start] at discipline
  obtain ⟨_, inside, refusals⟩ := discipline
  obtain ⟨frame, leaves⟩ := inside _ unreturned
  have own := frame.own_eq
  rw [empty, start] at own
  have refused := refusals _ .tick .ret again (.ret unused)
  exact ⟨calls, unreturned, own, returns, (leaves .cycle returns).1, again, refused.2.2⟩

end Machine

end Chip8
