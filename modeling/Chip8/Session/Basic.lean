import Chip8.Machine.Trace
/-!
A session: a machine that beats in the background while it runs, can be paused and stepped by hand,
and passes its tones on to a sound device.
-/

namespace Chip8

inductive Phase where
  | idle
  | running
  | paused
  deriving DecidableEq, Repr

def Phase.name : Phase → String
  | .idle => "idle"
  | .running => "running"
  | .paused => "paused"

/-- The background beat. It keeps the interval and the clock that it was started with. -/
structure Ticker where
  interval : Duration
  clock : TimerClock
  deriving DecidableEq, Repr

structure Session where
  machine : Machine
  phase : Phase
  /-- The interval that the next ticker gets. -/
  interval : Duration
  /-- The interval that a load goes back to. -/
  configuredInterval : Duration
  clock : TimerClock
  ticker : Option Ticker
  sound : SoundDevice
  deriving DecidableEq, Repr

namespace Session

/-- A session without a program. The seed is drawn by the caller if the settings have none. -/
def start (settings : Settings) (drawnSeed : UInt64) (sound : SoundDevice) : Session :=
  { machine := Machine.powerOn (settings.seed.getD drawnSeed)
    phase := .idle
    interval := settings.interval
    configuredInterval := settings.interval
    clock := settings.clock
    ticker := none
    sound := sound }

def stopTicker (session : Session) : Session :=
  { session with ticker := none }

def tick (session : Session) : Session :=
  let next := session.machine.tick
  { session with
    machine := next.1
    sound := session.sound.signal? next.2 }

/-! ### In the background -/

/-- One background beat, if there is a ticker. Under the sixty hertz clock the timers may have come
due any number of times since the beat before. -/
def backgroundBeat (session : Session) (timersDue : Nat) : Session :=
  match session.ticker with
  | none => session
  | some ticker =>
      let count := match ticker.clock with
        | .perTick => 1
        | .sixtyHertz => timersDue
      let next := session.machine.beat count
      { session with
        machine := next.1
        sound := session.sound.signal? next.2 }

def IsAt (session : Session) (address : UInt16) : Prop :=
  session.machine.registers.pc = address ∧
    session.machine.registers.delay = 0 ∧ session.machine.registers.sound = 0

instance (session : Session) (address : UInt16) : Decidable (session.IsAt address) :=
  inferInstanceAs (Decidable (_ ∧ _ ∧ _))

def awaitAt (session : Session) (address : UInt16) : Nat → Session
  | 0 => session
  | fuel + 1 =>
      if session.IsAt address then session
      else (session.backgroundBeat 1).awaitAt address fuel

/-! ### For show -/

def title (session : Session) : String :=
  match session.phase with
  | .paused => "CHIP-8 [paused]"
  | _ => s!"CHIP-8 [{session.interval.text}/tick]"

end Session

end Chip8
