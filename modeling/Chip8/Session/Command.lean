import Chip8.Session.Basic
import Chip8.System
/-!
The commands that a session takes. A load is taken in every phase and ends running; pausing needs a
running session, resuming and stepping a paused one. Whatever starts the background beat needs a
thread, and the system may refuse it.
-/

namespace Chip8

inductive PhaseAction where
  | pause
  | resume
  | step
  deriving DecidableEq, Repr

def PhaseAction.name : PhaseAction → String
  | .pause => "pause"
  | .resume => "resume"
  | .step => "step"

def PhaseAction.requires : PhaseAction → Phase
  | .pause => .running
  | .resume => .paused
  | .step => .paused

inductive Refusal where
  | load (reason : LoadError)
  | outOfPhase (action : PhaseAction) (phase : Phase)
  | system (problem : SystemProblem)
  deriving DecidableEq, Repr

/-- A refusal by the system reads like that of a source that fails. -/
def Refusal.message : Refusal → String
  | .load reason => reason.message
  | .outOfPhase action phase => s!"cannot {action.name} while {phase.name}"
  | .system _ => LoadError.unreadable.message

namespace Session

abbrev Reply : Type := Except Refusal Unit × Session

def Reply.andThen (reply : Reply) (next : Session → Reply) : Reply :=
  match reply with
  | (.error refusal, session) => (.error refusal, session)
  | (.ok (), session) => next session

def startTicker (session : Session) (thread : SystemAnswer) : Reply :=
  match thread with
  | .error problem => (.error (.system problem), session)
  | .ok () => (.ok (), { session with ticker := some ⟨session.interval, session.clock⟩ })

/-! ### Loading and resetting -/

/-- The background beat stands still during the attempt. If the program is refused it starts again
where it was running. -/
def load (session : Session) (program : List UInt8) (thread : SystemAnswer) : Reply :=
  let halted := session.stopTicker
  match halted.machine.load program with
  | (.error reason, kept) =>
      let refused : Session := { halted with machine := kept }
      if session.phase = .running then
        Reply.andThen (refused.startTicker thread) fun restarted =>
          (.error (.load reason), restarted)
      else (.error (.load reason), refused)
  | (.ok (), machine) =>
      let loaded : Session :=
        { halted with
          machine := machine
          sound := halted.sound.signal .stop
          interval := halted.configuredInterval }
      Reply.andThen (loaded.startTicker thread) fun started =>
        (.ok (), { started with phase := .running })

/-- The source is read before the session is touched. -/
def loadFrom (session : Session) (source : ByteSource) (thread : SystemAnswer) : Reply :=
  match source.readToEnd with
  | .error reason => (.error (.load reason), session)
  | .ok program => session.load program thread

def reset (session : Session) : Session :=
  let halted := session.stopTicker
  { halted with
    machine := halted.machine.reset
    sound := halted.sound.signal .stop
    phase := .idle }

/-! ### Between running and paused -/

def inPhase (session : Session) (action : PhaseAction) (change : Session → Reply) : Reply :=
  if session.phase = action.requires then change session
  else (.error (.outOfPhase action session.phase), session)

def pause (session : Session) : Reply :=
  session.inPhase .pause fun running => (.ok (), { running.stopTicker with phase := .paused })

def resume (session : Session) (thread : SystemAnswer) : Reply :=
  session.inPhase .resume fun paused =>
    Reply.andThen (paused.startTicker thread) fun started =>
      (.ok (), { started with phase := .running })

def step (session : Session) : Reply :=
  session.inPhase .step fun paused => (.ok (), paused.tick)

/-! ### Speed -/

/-- The new interval is used from the next start of the background beat on. -/
def setInterval (session : Session) (interval : Duration) : Session :=
  { session with interval := interval }

def choosePace (session : Session) (pace : Pace) (thread : SystemAnswer) : Reply :=
  let retimed := session.setInterval pace.interval
  if retimed.phase = .running then
    Reply.andThen retimed.pause fun paused => paused.resume thread
  else (.ok (), retimed)

/-! ### Commands as values -/

inductive Command where
  | load (program : List UInt8)
  | loadFrom (source : ByteSource)
  | pause
  | resume
  | step
  | setInterval (interval : Duration)
  | choosePace (pace : Pace)
  | reset

def obey (session : Session) (thread : SystemAnswer) : Command → Reply
  | .load program => session.load program thread
  | .loadFrom source => session.loadFrom source thread
  | .pause => session.pause
  | .resume => session.resume thread
  | .step => session.step
  | .setInterval interval => (.ok (), session.setInterval interval)
  | .choosePace pace => session.choosePace pace thread
  | .reset => (.ok (), session.reset)

/-! ### Log -/

def startLog (thread : SystemAnswer) (entry : LogEntry) : List LogEntry :=
  match thread with
  | .error _ => []
  | .ok () => [entry]

def loadLog (session : Session) (program : List UInt8) (thread : SystemAnswer) : List LogEntry :=
  match (session.machine.load program).1 with
  | .error _ => []
  | .ok () =>
      Machine.loadLog program ++
        startLog thread (.started session.configuredInterval session.clock)

def log (session : Session) (thread : SystemAnswer) : Command → List LogEntry
  | .load program => session.loadLog program thread
  | .loadFrom source =>
      match source.readToEnd with
      | .error _ => []
      | .ok program => session.loadLog program thread
  | .pause => if session.phase = .running then [.paused] else []
  | .resume =>
      if session.phase = .paused then startLog thread (.resumed session.interval) else []
  | .step => if session.phase = .paused then session.machine.tickLog else []
  | .setInterval interval => [.retimed session.interval interval]
  | .choosePace pace =>
      .retimed session.interval pace.interval ::
        if session.phase = .running then .paused :: startLog thread (.resumed pace.interval)
        else []
  | .reset => [.reset]

end Session

end Chip8
