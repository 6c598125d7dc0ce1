import Chip8.CommandLine
import Chip8.Session.Command
/-!
Starting the program from its command line, up to the running session: the arguments are read, then
the program file, and then the program is loaded. What goes wrong ends in an exit code and a text.
-/

namespace Chip8

structure Exit where
  code : Nat
  output : String
  errors : String
  deriving DecidableEq, Repr

namespace Exit

def usage : String :=
  "Usage: chip8 [--speed-ms N] [--timers per-tick|60hz] [--seed N] <ROM>\n"

def ofUsageError : CommandLine.UsageError → String
  | .unknownArgument => "unexpected argument"
  | .invalidValue => "missing or invalid value"
  | .invalidNumber => "invalid number"
  | .tooManyValues => "unexpected value for an option that takes none"
  | .repeatedOption => "an option cannot be used more than once"
  | .missingProgram => "the ROM was not given"

/-- Help and version end well; a misuse ends with code 2. -/
def ofStop : CommandLine.Stop → Exit
  | .help => ⟨0, usage, ""⟩
  | .version => ⟨0, "chip8 0.1.0\n", ""⟩
  | .misused error => ⟨2, "", s!"error: {ofUsageError error}\n\n" ++ usage⟩

def causeLines : List String → List String
  | [cause] => [s!"    {cause}"]
  | causes => causes.zipIdx.map fun numbered => s!"    {numbered.2}: {numbered.1}"

def failure (attempted : String) (causes : List String) : Exit :=
  let explained := if causes = [] then [] else ["", "Caused by:"] ++ causeLines causes
  ⟨1, "", "\n".intercalate (s!"Error: {attempted}" :: explained) ++ "\n"⟩

end Exit

/-- What the message of a refusal leaves out. -/
def Refusal.causes : Refusal → List String
  | .system problem => [problem.text]
  | _ => []

/-- The session that a call starts, given what reading the program file gave and what the system
answers to the thread for the background beat. -/
def launch (call : CommandLine.Call) (contents : Except SystemProblem (List UInt8))
    (drawnSeed : UInt64) (sound : SoundDevice) (thread : SystemAnswer) : Except Exit Session :=
  match contents with
  | .error problem => .error (.failure s!"can't read ROM {call.program}" [problem.text])
  | .ok program =>
      match (Session.start call.settings drawnSeed sound).load program thread with
      | (.error refusal, _) =>
          .error (.failure s!"can't load ROM {call.program}" (refusal.message :: refusal.causes))
      | (.ok (), session) => .ok session

end Chip8
