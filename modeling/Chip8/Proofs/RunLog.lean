import Chip8.Machine.Trace
import Chip8.Proofs.Disassembly
import Chip8.Proofs.Parked
/-!
What a run logs. The lines of a tick say which word was fetched at which address and how its execution
went, and all of them stand at the address where the tick began, since a fault leaves the program counter
where it was. From its line an entry can be told again, the instruction and the fault with it.
-/

namespace Chip8

open Text (hexDigits)

theorem Text.append_cons_inj {mark : Char} {first second later other : List Char}
    (firstPlain : mark ∉ first) (secondPlain : mark ∉ second)
    (same : first ++ mark :: later = second ++ mark :: other) : first = second ∧ later = other := by
  have places := congrArg (List.idxOf mark) same
  rw [List.idxOf_append_of_notMem firstPlain, List.idxOf_append_of_notMem secondPlain,
    List.idxOf_cons_self, List.idxOf_cons_self] at places
  obtain ⟨before, behind⟩ := List.append_inj same places
  exact ⟨before, (List.cons.inj behind).2⟩

/-! ### The texts of faults -/

namespace Fault

theorem toList_message (fault : Fault) :
    fault.message.toList =
      match fault with
      | .invalidIndex bank index =>
          "invalid ".toList ++ (bank.name.toList ++ ' ' :: ("index ".toList ++ Nat.toDigits 10 index))
      | .invalidAddress address => "memory access out of bounds at 0x".toList ++ hexDigits 4 address
      | .stackOverflow depth =>
          "call stack overflow (depth ".toList ++ (Nat.toDigits 10 depth ++ [')'])
      | .stackUnderflow => "return with empty call stack".toList := by
  cases fault with
  | invalidIndex bank index =>
      change ("invalid " ++ bank.name ++ " index " ++ toString index).toList = _
      rw [String.toList_append, String.toList_append, String.toList_append, Text.toList_toString,
        List.append_assoc, List.append_assoc]
      rfl
  | invalidAddress address =>
      change ("memory access out of bounds at 0x" ++ Text.hex 4 address).toList = _
      rw [String.toList_append, Text.toList_hex]
  | stackOverflow depth =>
      change ("call stack overflow (depth " ++ toString depth ++ ")").toList = _
      rw [String.toList_append, String.toList_append, Text.toList_toString, List.append_assoc]
      rfl
  | stackUnderflow => rfl

def initial : Fault → Char
  | .invalidIndex _ _ => 'i'
  | .invalidAddress _ => 'm'
  | .stackOverflow _ => 'c'
  | .stackUnderflow => 'r'

theorem head?_message (fault : Fault) : fault.message.toList.head? = some fault.initial := by
  rw [toList_message]
  cases fault <;> rfl

theorem bank_name_injective {first second : Bank}
    (same : first.name.toList = second.name.toList) : first = second := by
  revert same
  cases first <;> cases second <;> decide

theorem space_notMem_bank_name (bank : Bank) : ' ' ∉ bank.name.toList := by
  cases bank <;> decide

theorem message_injective : Function.Injective message := by
  intro first second same
  have initials := first.head?_message
  rw [same, head?_message] at initials
  have characters := congrArg String.toList same
  rw [toList_message, toList_message] at characters
  cases first with
  | invalidIndex bank index =>
      cases second with
      | invalidIndex otherBank otherIndex =>
          obtain ⟨names, indices⟩ := Text.append_cons_inj (space_notMem_bank_name bank)
            (space_notMem_bank_name otherBank) (List.append_cancel_left characters)
          rw [bank_name_injective names,
            Text.toDigits_ten_injective (List.append_cancel_left indices)]
      | _ => simp [initial] at initials
  | invalidAddress address =>
      cases second with
      | invalidAddress other =>
          rw [Text.hexDigits_injective (List.append_cancel_left characters)]
      | _ => simp [initial] at initials
  | stackOverflow depth =>
      cases second with
      | stackOverflow other =>
          have digits := List.append_cancel_right (List.append_cancel_left characters)
          rw [Text.toDigits_ten_injective digits]
      | _ => simp [initial] at initials
  | stackUnderflow =>
      cases second with
      | stackUnderflow => rfl
      | _ => simp [initial] at initials

end Fault

/-! ### The lines of entries -/

namespace LogEntry

def address? : LogEntry → Option UInt16
  | .fetched pc _ _ | .unassigned pc _ | .faulted pc _ => some pc
  | _ => none

def remark : LogEntry → List Char
  | .fetched _ opcode instruction =>
      ' ' :: (hexDigits 4 opcode.toNat ++ ' ' :: ' ' :: instruction.text.toList)
  | .unassigned _ opcode => " unknown opcode ".toList ++ hexDigits 4 opcode.toNat
  | .faulted _ fault => ' ' :: fault.message.toList
  | _ => []

theorem toList_text {entry : LogEntry} {pc : UInt16} (addressed : entry.address? = some pc) :
    entry.text.toList = hexDigits 3 pc.toNat ++ ':' :: entry.remark := by
  cases entry with
  | fetched address opcode instruction =>
      cases addressed
      change (Text.hex 3 pc.toNat ++ ": " ++ Text.hex 4 opcode.toNat ++ "  " ++
        instruction.text).toList = _
      simp only [String.toList_append, Text.toList_hex, List.append_assoc]
      rfl
  | unassigned address opcode =>
      cases addressed
      change (Text.hex 3 pc.toNat ++ ": unknown opcode " ++ Text.hex 4 opcode.toNat).toList = _
      simp only [String.toList_append, Text.toList_hex, List.append_assoc]
      rfl
  | faulted address fault =>
      cases addressed
      change (Text.hex 3 pc.toNat ++ ": " ++ fault.message).toList = _
      simp only [String.toList_append, Text.toList_hex, List.append_assoc]
      rfl
  | _ => cases addressed

theorem toList_line (entry : LogEntry) :
    entry.line.toList = entry.severity.name.toList ++ ' ' :: entry.text.toList := by
  change (entry.severity.name ++ " " ++ entry.text).toList = _
  rw [String.toList_append, String.toList_append, List.append_assoc]
  rfl

end LogEntry

theorem Severity.space_notMem_name (severity : Severity) : ' ' ∉ severity.name.toList := by
  cases severity <;> decide

theorem Severity.name_injective {first second : Severity}
    (same : first.name.toList = second.name.toList) : first = second := by
  revert same
  cases first <;> cases second <;> decide

namespace LogEntry

theorem hexDigits_word_injective {width : Nat} {first second : UInt16}
    (same : hexDigits width first.toNat = hexDigits width second.toNat) : first = second :=
  UInt16.toNat_inj.mp (Text.hexDigits_injective same)

theorem eq_of_line_eq {first second : LogEntry} {pc other : UInt16}
    (firstAddressed : first.address? = some pc) (secondAddressed : second.address? = some other)
    (same : first.line = second.line) : first = second := by
  have characters := congrArg String.toList same
  rw [toList_line, toList_line] at characters
  obtain ⟨names, texts⟩ := Text.append_cons_inj first.severity.space_notMem_name
    second.severity.space_notMem_name characters
  have severities := Severity.name_injective names
  rw [toList_text firstAddressed, toList_text secondAddressed] at texts
  obtain ⟨addresses, remarks⟩ := Text.append_cons_inj (Text.notMem_hexDigits rfl 3 pc.toNat)
    (Text.notMem_hexDigits rfl 3 other.toNat) texts
  obtain rfl := hexDigits_word_injective addresses
  cases first with
  | fetched address opcode instruction =>
      cases firstAddressed
      cases second with
      | fetched address word read =>
          cases secondAddressed
          obtain ⟨words, rest⟩ := Text.append_cons_inj (Text.notMem_hexDigits rfl 4 opcode.toNat)
            (Text.notMem_hexDigits rfl 4 word.toNat) (List.cons.inj remarks).2
          have texts := String.toList_injective (List.cons.inj rest).2
          rw [hexDigits_word_injective words, Instruction.text_injective texts]
      | unassigned | faulted => cases severities
      | _ => cases secondAddressed
  | unassigned address opcode =>
      cases firstAddressed
      cases second with
      | unassigned address word =>
          cases secondAddressed
          rw [hexDigits_word_injective (List.append_cancel_left remarks)]
      | fetched | faulted => cases severities
      | _ => cases secondAddressed
  | faulted address fault =>
      cases firstAddressed
      cases second with
      | faulted address reason =>
          cases secondAddressed
          rw [Fault.message_injective (String.toList_injective (List.cons.inj remarks).2)]
      | fetched | unassigned => cases severities
      | _ => cases secondAddressed
  | _ => cases firstAddressed

def lineAt (pc : UInt16) (severity remark : String) : String :=
  s!"{severity} {Text.hex 3 pc.toNat}: {remark}"

theorem line_fetched (pc opcode : UInt16) (instruction : Instruction) :
    (fetched pc opcode instruction).line =
      lineAt pc "TRACE" s!"{Text.hex 4 opcode.toNat}  {instruction.text}" := by
  change "TRACE" ++ " " ++ (Text.hex 3 pc.toNat ++ ": " ++ Text.hex 4 opcode.toNat ++ "  " ++
      instruction.text) =
    "TRACE" ++ " " ++ Text.hex 3 pc.toNat ++ ": " ++
      (Text.hex 4 opcode.toNat ++ "  " ++ instruction.text)
  simp only [String.append_assoc]

theorem line_unassigned (pc opcode : UInt16) :
    (unassigned pc opcode).line =
      lineAt pc "DEBUG" s!"unknown opcode {Text.hex 4 opcode.toNat}" := by
  have parted : ": unknown opcode " = ": " ++ "unknown opcode " := by decide
  change "DEBUG" ++ " " ++ (Text.hex 3 pc.toNat ++ ": unknown opcode " ++
      Text.hex 4 opcode.toNat) =
    "DEBUG" ++ " " ++ Text.hex 3 pc.toNat ++ ": " ++ ("unknown opcode " ++ Text.hex 4 opcode.toNat)
  rw [parted]
  simp only [String.append_assoc]

theorem line_faulted (pc : UInt16) (fault : Fault) :
    (faulted pc fault).line = lineAt pc "WARN" fault.message := by
  change "WARN" ++ " " ++ (Text.hex 3 pc.toNat ++ ": " ++ fault.message) =
    "WARN" ++ " " ++ Text.hex 3 pc.toNat ++ ": " ++ fault.message
  simp only [String.append_assoc]

end LogEntry

/-! ### Ticks -/

namespace Machine

variable {machine : Machine} {opcode : UInt16} {fault : Fault}

theorem executeLog_of_assigned {instruction : Instruction} (assigned : instruction.Assigned) :
    machine.executeLog instruction = [] := by
  cases instruction with
  | unassigned word => exact assigned.elim
  | _ => rfl

theorem assigned_of_fault? {instruction : Instruction}
    (failed : machine.fault? instruction = some fault) : instruction.Assigned := by
  cases instruction with
  | unassigned word => cases failed
  | _ => trivial

theorem stepLog_of_fetched (fetched : machine.fetch = .ok opcode) :
    machine.stepLog =
      .fetched machine.registers.pc opcode (Instruction.decode opcode) ::
        machine.executeLog (Instruction.decode opcode) := by
  unfold stepLog
  rw [fetched]

theorem cycleLog_of_unfetched (refused : machine.fetch = .error fault) :
    machine.cycleLog = [.faulted machine.registers.pc fault] := by
  unfold cycleLog stepLog
  rw [perform_step, stepFault?_of_fetch_error refused, refused]
  rfl

theorem cycleLog_of_fault (fetched : machine.fetch = .ok opcode)
    (failed : machine.fault? (Instruction.decode opcode) = some fault) :
    machine.cycleLog =
      [.fetched machine.registers.pc opcode (Instruction.decode opcode),
        .faulted machine.registers.pc fault] := by
  have quiet : machine.executeLog (Instruction.decode opcode) = [] :=
    executeLog_of_assigned (assigned_of_fault? failed)
  unfold cycleLog
  rw [perform_step, (current_of_fetch_ok fetched).2, failed, stepLog_of_fetched fetched, quiet]
  rfl

theorem cycleLog_of_passed (fetched : machine.fetch = .ok opcode)
    (passed : machine.fault? (Instruction.decode opcode) = none) :
    machine.cycleLog =
      .fetched machine.registers.pc opcode (Instruction.decode opcode) ::
        machine.executeLog (Instruction.decode opcode) := by
  unfold cycleLog
  rw [perform_step, (current_of_fetch_ok fetched).2, passed, stepLog_of_fetched fetched]

theorem perform_execute_countDown (machine : Machine) (instruction : Instruction) :
    (machine.countDown.1.perform (execute instruction)).1 =
      match machine.fault? instruction with
      | none => .ok ()
      | some fault => .error fault := by
  rw [countDown_fst, countedDown, perform_execute_withTimers, perform_execute]
  cases machine.fault? instruction <;> rfl

theorem tickLog_eq (machine : Machine) : machine.tickLog = machine.cycleLog := by
  change machine.countDown.1.cycleLog = machine.cycleLog
  rw [countDown_fst, countedDown]
  generalize lowered machine.registers.delay 1 = delay
  generalize lowered machine.registers.sound 1 = sound
  have sameFetch : (machine.withTimers delay sound).fetch = machine.fetch := rfl
  have sameFault := machine.fault?_withTimers delay sound
  cases fetched : machine.fetch with
  | error fault =>
      rw [cycleLog_of_unfetched fetched, cycleLog_of_unfetched (sameFetch.trans fetched)]
      rfl
  | ok opcode =>
      cases failed : machine.fault? (Instruction.decode opcode) with
      | some fault =>
          rw [cycleLog_of_fault fetched failed,
            cycleLog_of_fault (sameFetch.trans fetched) ((sameFault _).trans failed)]
          rfl
      | none =>
          rw [cycleLog_of_passed fetched failed,
            cycleLog_of_passed (sameFetch.trans fetched) ((sameFault _).trans failed)]
          rfl

open LogEntry (lineAt)

/-- The lines that a tick of the machine can log, and when it logs them. -/
inductive TickLogs (machine : Machine) : List String → Prop where
  | unfetched {fault : Fault} (refused : machine.fetch = .error fault) :
      TickLogs machine [lineAt machine.registers.pc "WARN" fault.message]
  | unassigned {opcode : UInt16} (fetched : machine.fetch = .ok opcode)
      (meaningless : ∀ instruction : Instruction,
        instruction.Assigned → ¬instruction.EncodedBy opcode.toNat) :
      TickLogs machine
        [lineAt machine.registers.pc "TRACE"
          s!"{Text.hex 4 opcode.toNat}  {(Instruction.decode opcode).text}",
        lineAt machine.registers.pc "DEBUG" s!"unknown opcode {Text.hex 4 opcode.toNat}"]
  | faulted {opcode : UInt16} {fault : Fault} (fetched : machine.fetch = .ok opcode)
      (failed : (machine.countDown.1.perform (execute (Instruction.decode opcode))).1 =
        .error fault) :
      TickLogs machine
        [lineAt machine.registers.pc "TRACE"
          s!"{Text.hex 4 opcode.toNat}  {(Instruction.decode opcode).text}",
        lineAt machine.registers.pc "WARN" fault.message]
  | executed {opcode : UInt16} (fetched : machine.fetch = .ok opcode)
      (meant : (Instruction.decode opcode).Assigned)
      (passed : (machine.countDown.1.perform (execute (Instruction.decode opcode))).1 = .ok ()) :
      TickLogs machine
        [lineAt machine.registers.pc "TRACE"
          s!"{Text.hex 4 opcode.toNat}  {(Instruction.decode opcode).text}"]

theorem meaningless_of_decode {opcode word : UInt16}
    (unassigned : Instruction.decode opcode = .unassigned word) (instruction : Instruction)
    (assigned : instruction.Assigned) : ¬instruction.EncodedBy opcode.toNat := by
  intro means
  rw [(Instruction.decode_eq_iff assigned).mpr means] at unassigned
  rw [unassigned] at assigned
  exact assigned

theorem tickLogs_tickLog (machine : Machine) :
    machine.TickLogs (machine.tickLog.map LogEntry.line) := by
  rw [tickLog_eq]
  cases fetched : machine.fetch with
  | error fault =>
      rw [cycleLog_of_unfetched fetched, List.map_singleton, LogEntry.line_faulted]
      exact .unfetched fetched
  | ok opcode =>
      have performed := machine.perform_execute_countDown (Instruction.decode opcode)
      cases failed : machine.fault? (Instruction.decode opcode) with
      | some fault =>
          rw [failed] at performed
          rw [cycleLog_of_fault fetched failed, List.map_cons, List.map_singleton,
            LogEntry.line_fetched, LogEntry.line_faulted]
          exact .faulted fetched performed
      | none =>
          rw [failed] at performed
          rw [cycleLog_of_passed fetched failed, List.map_cons, LogEntry.line_fetched]
          by_cases assigned : (Instruction.decode opcode).Assigned
          · rw [executeLog_of_assigned assigned]
            exact .executed fetched assigned performed
          · cases read : Instruction.decode opcode with
            | unassigned word =>
                obtain rfl := Instruction.eq_of_decode_unassigned read
                have logs := TickLogs.unassigned fetched (meaningless_of_decode read)
                rw [executeLog, List.map_singleton, LogEntry.line_unassigned]
                rw [read] at logs
                exact logs
            | _ =>
                rw [read] at assigned
                exact absurd trivial assigned

theorem eq_unassigned_of_mem_executeLog {instruction : Instruction} {entry : LogEntry}
    (listed : entry ∈ machine.executeLog instruction) :
    ∃ word, entry = .unassigned machine.registers.pc word := by
  unfold executeLog at listed
  split at listed
  · exact ⟨_, List.mem_singleton.mp listed⟩
  · cases listed

/-- Whatever a tick logs names the address where it began, and a fault is only logged of a step that
has failed. -/
theorem cases_of_mem_tickLog {entry : LogEntry} (listed : entry ∈ machine.tickLog) :
    (∃ fault, machine.stepFault? = some fault ∧ entry = .faulted machine.registers.pc fault) ∨
      (∃ opcode, entry =
        .fetched machine.registers.pc opcode (Instruction.decode opcode)) ∨
      ∃ word, entry = .unassigned machine.registers.pc word := by
  rw [tickLog_eq] at listed
  cases fetched : machine.fetch with
  | error fault =>
      rw [cycleLog_of_unfetched fetched] at listed
      exact Or.inl ⟨fault, stepFault?_of_fetch_error fetched, List.mem_singleton.mp listed⟩
  | ok opcode =>
      have checked := (current_of_fetch_ok fetched).2
      cases failed : machine.fault? (Instruction.decode opcode) with
      | some fault =>
          rw [cycleLog_of_fault fetched failed] at listed
          rcases List.mem_cons.mp listed with first | last
          · exact Or.inr (Or.inl ⟨opcode, first⟩)
          · exact Or.inl ⟨fault, checked.trans failed, List.mem_singleton.mp last⟩
      | none =>
          rw [cycleLog_of_passed fetched failed] at listed
          rcases List.mem_cons.mp listed with first | later
          · exact Or.inr (Or.inl ⟨opcode, first⟩)
          · exact Or.inr (Or.inr (eq_unassigned_of_mem_executeLog later))

theorem address?_of_mem_tickLog {entry : LogEntry} (listed : entry ∈ machine.tickLog) :
    entry.address? = some machine.registers.pc := by
  rcases cases_of_mem_tickLog listed with ⟨_, _, rfl⟩ | ⟨_, rfl⟩ | ⟨_, rfl⟩ <;> rfl

theorem tick_eq_of_warned {entry : LogEntry} (listed : entry ∈ machine.tickLog)
    (warned : entry.severity = .warn) : machine.tick.1 = machine.countedDown 1 := by
  rw [tick_fst, countDown_fst]
  have sameFault : (machine.countedDown 1).stepFault? = machine.stepFault? :=
    machine.stepFault?_withTimers _ _
  rcases cases_of_mem_tickLog listed with ⟨_, failed, _⟩ | ⟨_, rfl⟩ | ⟨_, rfl⟩
  · exact stepped_of_fault (sameFault.trans failed)
  · cases warned
  · cases warned

/-! ### Runs -/

def runLog (machine : Machine) : Nat → List LogEntry
  | 0 => []
  | count + 1 => machine.tickLog ++ machine.tick.1.runLog count

def runLines (machine : Machine) (count : Nat) : List String :=
  (machine.runLog count).map LogEntry.line

def afterTicks (machine : Machine) (count : Nat) : Machine :=
  machine.afterMoves (List.replicate count .tick)

theorem afterTicks_succ (machine : Machine) (count : Nat) :
    machine.afterTicks (count + 1) = machine.tick.1.afterTicks count := by
  rw [afterTicks, List.replicate_succ]
  rfl

theorem runLog_eq_flatMap (machine : Machine) (count : Nat) :
    machine.runLog count =
      (List.range count).flatMap fun earlier => (machine.afterTicks earlier).tickLog := by
  induction count generalizing machine with
  | zero => rfl
  | succ count ih =>
      rw [runLog, ih, List.range_succ_eq_map, List.flatMap_cons, List.flatMap_map]
      simp only [afterTicks_succ]
      rfl

theorem exists_address_of_mem_runLog {entry : LogEntry} {count : Nat}
    (listed : entry ∈ machine.runLog count) : ∃ pc, entry.address? = some pc := by
  rw [runLog_eq_flatMap] at listed
  obtain ⟨_, _, logged⟩ := List.mem_flatMap.mp listed
  exact ⟨_, address?_of_mem_tickLog logged⟩

theorem eq_of_map_line_eq {first second : List LogEntry}
    (firstAddressed : ∀ entry ∈ first, ∃ pc, entry.address? = some pc)
    (secondAddressed : ∀ entry ∈ second, ∃ pc, entry.address? = some pc)
    (same : first.map LogEntry.line = second.map LogEntry.line) : first = second := by
  induction first generalizing second with
  | nil => exact (List.map_eq_nil_iff.mp same.symm).symm
  | cons entry rest ih =>
      cases second with
      | nil => cases same
      | cons other later =>
          obtain ⟨sameLine, sameRest⟩ := List.cons.inj same
          obtain ⟨_, addressed⟩ := firstAddressed entry List.mem_cons_self
          obtain ⟨_, otherAddressed⟩ := secondAddressed other List.mem_cons_self
          rw [LogEntry.eq_of_line_eq addressed otherAddressed sameLine,
            ih (fun _ listed => firstAddressed _ (List.mem_cons_of_mem entry listed))
              (fun _ listed => secondAddressed _ (List.mem_cons_of_mem other listed)) sameRest]

/-- A run logs the lines of its ticks, one tick after the other. A tick logs one warning if nothing can be
fetched, and else the word and its instruction, with a second line if the word means nothing or its
execution fails. All of this stands at the address where the tick began, and with a warning nothing but the
timers has changed. The lines tell the entries: runs with the same lines have fetched the same words at the
same addresses, and have met the same faults. -/
theorem run_log_tells_what_happened (machine : Machine) (count : Nat) :
    machine.runLines count =
        ((List.range count).flatMap fun earlier =>
          (machine.afterTicks earlier).tickLog.map LogEntry.line) ∧
      (∀ earlier,
        let now := machine.afterTicks earlier
        now.TickLogs (now.tickLog.map LogEntry.line) ∧
          (∀ entry ∈ now.tickLog, entry.address? = some now.registers.pc) ∧
          ((∃ entry ∈ now.tickLog, entry.severity = .warn) → now.tick.1 = now.countedDown 1)) ∧
      ∀ (other : Machine) (otherCount : Nat),
        machine.runLines count = other.runLines otherCount →
          machine.runLog count = other.runLog otherCount := by
  refine ⟨?_, ?_, ?_⟩
  · rw [runLines, runLog_eq_flatMap, List.map_flatMap]
  · intro earlier now
    refine ⟨now.tickLogs_tickLog, fun _ => address?_of_mem_tickLog, ?_⟩
    rintro ⟨entry, listed, warned⟩
    exact tick_eq_of_warned listed warned
  · intro other otherCount same
    exact eq_of_map_line_eq (fun _ => exists_address_of_mem_runLog)
      (fun _ => exists_address_of_mem_runLog) same

/-- The same program on machines with other random words jumps over nothing to a return that has no call. -/
theorem lone_return_is_warned_of :
    let program : List UInt8 := [0x12, 0x02, 0x00, 0xee]
    let machine := (powerOn 0).afterOperation (.load program)
    let other := (powerOn 1).afterOperation (.load program)
    let now := machine.afterTicks 1
    .faulted 0x202 .stackUnderflow ∈ now.tickLog ∧ now.tick.1 = now.countedDown 1 ∧
      machine.runLines 3 = other.runLines 3 ∧ machine.runLog 3 = other.runLog 3 := by
  intro program machine other now
  have warned : LogEntry.faulted 0x202 .stackUnderflow ∈ now.tickLog := by decide +kernel
  have entries : machine.runLog 3 = other.runLog 3 := by decide +kernel
  have lines : machine.runLines 3 = other.runLines 3 := congrArg (List.map LogEntry.line) entries
  obtain ⟨_, ticks, told⟩ := run_log_tells_what_happened machine 3
  exact ⟨warned, (ticks 1).2.2 ⟨_, warned, rfl⟩, lines, told other 3 lines⟩

end Machine

end Chip8
