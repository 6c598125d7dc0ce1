import Chip8.Instruction.Listing
import Chip8.Memory.Program
import Chip8.Settings
import Chip8.Text.Quoted
/-!
The events that are logged, with their severity and their wording.
-/

namespace Chip8

inductive Severity where
  | trace
  | debug
  | info
  | warn
  deriving DecidableEq, Repr

def Severity.name : Severity → String
  | .trace => "TRACE"
  | .debug => "DEBUG"
  | .info => "INFO"
  | .warn => "WARN"

inductive LogEntry where
  | fetched (pc opcode : UInt16) (instruction : Instruction)
  | unassigned (pc opcode : UInt16)
  | faulted (pc : UInt16) (fault : Fault)
  | loaded (size : Nat)
  | started (interval : Duration) (clock : TimerClock)
  | paused
  | resumed (interval : Duration)
  | retimed (before after : Duration)
  | reset
  | unmapped (character : Char)
  deriving DecidableEq, Repr

namespace LogEntry

def severity : LogEntry → Severity
  | .fetched .. => .trace
  | .unassigned .. => .debug
  | .faulted .. => .warn
  | .loaded .. => .info
  | .started .. => .info
  | .paused => .info
  | .resumed .. => .info
  | .retimed .. => .debug
  | .reset => .info
  | .unmapped .. => .debug

/-- Addresses are written with at least three digits and words with four. -/
def text : LogEntry → String
  | .fetched pc opcode instruction =>
      s!"{Text.hex 3 pc.toNat}: {Text.hex 4 opcode.toNat}  {instruction.text}"
  | .unassigned pc opcode =>
      s!"{Text.hex 3 pc.toNat}: unknown opcode {Text.hex 4 opcode.toNat}"
  | .faulted pc fault => s!"{Text.hex 3 pc.toNat}: {fault.message}"
  | .loaded size => s!"loaded {size} byte program"
  | .started interval clock => s!"running at one tick per {interval.text}, {clock.name} timers"
  | .paused => "paused"
  | .resumed interval => s!"resumed at one tick per {interval.text}"
  | .retimed before after => s!"speed {before.text} -> {after.text}"
  | .reset => "reset"
  | .unmapped character => s!"can't map {Text.quoted character} to a COSMAC key"

def line (entry : LogEntry) : String :=
  s!"{entry.severity.name} {entry.text}"

end LogEntry

end Chip8
