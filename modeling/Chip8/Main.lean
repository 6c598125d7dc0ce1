import Chip8.Console
import Chip8.Display.Surface
/-!
The command: it reads its arguments and the program file, and then shows the session on the terminal
until the user quits. All decisions are made by `Chip8.launch` and `Chip8.Console`.
-/

namespace Chip8

def problemOf : IO.Error → SystemProblem
  | .noFileOrDirectory .. => .notFound
  | .inappropriateType _ 21 _ => .isADirectory
  | .inappropriateType .. => .notADirectory
  | .invalidArgument .. => .nameTooLong
  | .permissionDenied .. => .permissionDenied
  | error => ⟨error.toString, 0⟩

def readProgram (path : String) : IO (Except SystemProblem (List UInt8)) := do
  try
    return .ok (← IO.FS.readBinFile path).toList
  catch error =>
    return .error (problemOf error)

/-- Keeps the bytes that come in until the next frame takes them. -/
partial def collectInput (pending : IO.Ref (List UInt8)) : IO Unit := do
  let bytes ← (← IO.getStdin).read 64
  if bytes.size > 0 then
    pending.modify (· ++ bytes.toList)
    collectInput pending

def frameMilliseconds : Nat := 16

partial def runFrames (console : Console .standard) (pending : IO.Ref (List UInt8))
    (beaten counted : Nat) : IO Ending := do
  let now ← IO.monoNanosNow
  let interval := max 1 console.session.interval.nanoseconds
  let count := min (now / interval - beaten) 10000
  let timersDue := now / timerPeriod.nanoseconds - counted
  let events := HostEvent.ofBytes (← pending.swap [])
  let next := console.frame ⟨now⟩ events count timersDue (.ok ())
  if next.terminal.shown ≠ console.terminal.shown then
    IO.print ("\x1b[H" ++ "\r\n".intercalate next.terminal.shown)
    (← IO.getStdout).flush
  match next.ending with
  | some ending => return ending
  | none =>
      IO.sleep (UInt32.ofNat frameMilliseconds)
      let nextInterval := max 1 next.session.interval.nanoseconds
      runFrames next pending (now / nextInterval) (now / timerPeriod.nanoseconds)

def runConsole (console : Console .standard) : IO Ending := do
  let pending ← IO.mkRef []
  let _ ← IO.asTask (collectInput pending) .dedicated
  IO.print ("\x1b[2J\x1b[H" ++ "\r\n".intercalate console.terminal.shown)
  let now ← IO.monoNanosNow
  let interval := max 1 console.session.interval.nanoseconds
  runFrames console pending (now / interval) (now / timerPeriod.nanoseconds)

def leave (exit : Exit) : IO UInt32 := do
  IO.print exit.output
  IO.eprint exit.errors
  return UInt32.ofNat exit.code

end Chip8

def main (arguments : List String) : IO UInt32 := do
  match Chip8.CommandLine.read arguments with
  | .error stop => Chip8.leave (.ofStop stop)
  | .ok call =>
      let contents ← Chip8.readProgram call.program
      let drawnSeed := UInt64.ofNat (← IO.monoNanosNow)
      match Chip8.launch call contents drawnSeed .mute (.ok ()) with
      | .error exit => Chip8.leave exit
      | .ok session =>
          match Chip8.Console.start .standard session with
          | .error problem => Chip8.leave (.failure problem.text [])
          | .ok console => Chip8.leave (.ofEnding (← Chip8.runConsole console))
