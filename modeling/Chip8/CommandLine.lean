import Chip8.Settings
/-!
The command line: one program file and three options with a value each. Arguments are read from left
to right. The latest program file or option is held back and judged only when something that has a
place follows, or the arguments end; so an argument that fits nowhere is reported before the value
that it follows.
-/

namespace Chip8.CommandLine

inductive OptionName where
  | interval
  | clock
  | seed
  deriving DecidableEq, Repr

def OptionName.named? : String → Option OptionName
  | "speed-ms" => some .interval
  | "timers" => some .clock
  | "seed" => some .seed
  | _ => none

def clockNamed? : String → Option TimerClock
  | "per-tick" => some .perTick
  | "60hz" => some .sixtyHertz
  | _ => none

inductive UsageError where
  | unknownArgument
  | invalidValue
  | invalidNumber
  | tooManyValues
  | repeatedOption
  | missingProgram
  deriving DecidableEq, Repr

inductive Stop where
  | help
  | version
  | misused (error : UsageError)
  deriving DecidableEq, Repr

structure Call where
  program : String
  intervalMilliseconds : UInt64 := 5
  clock : TimerClock := .perTick
  seed : Option UInt64 := none
  deriving DecidableEq, Repr

def Call.settings (call : Call) : Settings :=
  { interval := .ofMilliseconds call.intervalMilliseconds.toNat
    clock := call.clock
    seed := call.seed }

/-! ### Single arguments -/

/-- How an argument reads before its place among the others is considered. -/
inductive Argument where
  | plain (text : String)
  | option (name : OptionName) (attached : Option String)
  | help
  | version
  | misfit (error : UsageError)
  | separator
  deriving DecidableEq, Repr

def splitAttached (text : List Char) : List Char × Option (List Char) :=
  match text.dropWhile (· != '=') with
  | [] => (text, none)
  | _ :: attached => (text.takeWhile (· != '='), some attached)

def Argument.ofLong (text : List Char) : Argument :=
  let parts := splitAttached text
  match OptionName.named? (String.ofList parts.1), String.ofList parts.1 with
  | some name, _ => .option name (parts.2.map String.ofList)
  | none, "help" => if parts.2.isSome then .misfit .tooManyValues else .help
  | none, "version" => if parts.2.isSome then .misfit .tooManyValues else .version
  | none, _ => .misfit .unknownArgument

/-- Reads one argument. A single hyphen is plain, and of a group of one-letter options the first one
counts. -/
def Argument.ofString (argument : String) : Argument :=
  match argument.toList with
  | ['-', '-'] => .separator
  | '-' :: '-' :: long => .ofLong long
  | '-' :: 'h' :: _ => .help
  | '-' :: 'V' :: _ => .version
  | '-' :: _ :: _ => .misfit .unknownArgument
  | _ => .plain argument

/-! ### Values -/

def number? (text : String) : Option UInt64 :=
  let digits := match text.toList with
    | '+' :: digits => digits
    | digits => digits
  if digits ≠ [] ∧ digits.all Char.isDigit = true ∧ Nat.ofDigitChars 10 digits 0 < UInt64.size then
    some (UInt64.ofNat (Nat.ofDigitChars 10 digits 0))
  else none

inductive Pending where
  | program (text : String)
  | option (name : OptionName) (value : Option String)
  deriving DecidableEq, Repr

structure Draft where
  program : Option String := none
  interval : Option UInt64 := none
  clock : Option TimerClock := none
  seed : Option UInt64 := none
  pending : Option Pending := none
  deriving DecidableEq, Repr

namespace Draft

def has (draft : Draft) : OptionName → Bool
  | .interval => draft.interval.isSome
  | .clock => draft.clock.isSome
  | .seed => draft.seed.isSome

def withOption (draft : Draft) (name : OptionName) (value : String) : Except UsageError Draft :=
  if draft.has name then .error .repeatedOption
  else
    match name with
    | .clock =>
        match clockNamed? value with
        | some clock => .ok { draft with clock := some clock }
        | none => .error .invalidValue
    | .interval =>
        match number? value with
        | some interval => .ok { draft with interval := some interval }
        | none => .error .invalidNumber
    | .seed =>
        match number? value with
        | some seed => .ok { draft with seed := some seed }
        | none => .error .invalidNumber

/-- Judges what is pending. That an option has no value counts before its being repeated. -/
def settle (draft : Draft) : Except UsageError Draft :=
  let judged := { draft with pending := none }
  match draft.pending with
  | none => .ok judged
  | some (.program text) =>
      if text = "" then .error .invalidValue else .ok { judged with program := some text }
  | some (.option _ none) => .error .invalidValue
  | some (.option name (some value)) => judged.withOption name value

def hasProgram (draft : Draft) : Bool :=
  match draft.pending with
  | some (.program _) => true
  | _ => draft.program.isSome

/-- A second program file is refused before what is pending is judged. -/
def withProgram (draft : Draft) (text : String) : Except UsageError Draft :=
  if draft.hasProgram then .error .unknownArgument
  else do
    return { ← draft.settle with pending := some (.program text) }

/-- A plain argument where options may stand is the value of an option that waits for one, and the
program file otherwise. -/
def withPlain (draft : Draft) (text : String) : Except UsageError Draft :=
  match draft.pending with
  | some (.option name none) =>
      .ok { draft with pending := some (.option name (some text)) }
  | _ => draft.withProgram text

def finish (draft : Draft) : Except UsageError Call := do
  let settled ← draft.settle
  match settled.program with
  | none => throw .missingProgram
  | some program =>
      return { program := program
               intervalMilliseconds := settled.interval.getD 5
               clock := settled.clock.getD .perTick
               seed := settled.seed }

end Draft

def orMisused {α : Type} (outcome : Except UsageError α) : Except Stop α :=
  outcome.mapError Stop.misused

def readPrograms (draft : Draft) : List String → Except Stop Call
  | [] => orMisused draft.finish
  | argument :: later => do
      readPrograms (← orMisused (draft.withProgram argument)) later

def readFrom (draft : Draft) : List String → Except Stop Call
  | [] => orMisused draft.finish
  | argument :: later =>
      match Argument.ofString argument with
      | .plain text => do
          readFrom (← orMisused (draft.withPlain text)) later
      | .option name (some value) => do
          let settled ← orMisused draft.settle
          readFrom (← orMisused (settled.withOption name value)) later
      | .option name none => do
          let settled ← orMisused draft.settle
          readFrom { settled with pending := some (.option name none) } later
      | .help => do
          let _ ← orMisused draft.settle
          .error .help
      | .version => do
          let _ ← orMisused draft.settle
          .error .version
      | .misfit error => .error (.misused error)
      | .separator => readPrograms draft later

def read (arguments : List String) : Except Stop Call :=
  readFrom {} arguments

end Chip8.CommandLine
