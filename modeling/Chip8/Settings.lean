import Chip8.Duration
/-!
What can be chosen about a session before it starts: the time between beats, the clock of the
timers, and the seed of the random words.
-/

namespace Chip8

inductive Pace where
  | slow
  | normal
  | fast
  deriving DecidableEq, Repr

def Pace.interval : Pace → Duration
  | .slow => .ofMilliseconds 10
  | .normal => .ofMilliseconds 5
  | .fast => .ofMilliseconds 2

inductive TimerClock where
  /-- Once with every beat, so that they keep pace with the program. -/
  | perTick
  | sixtyHertz
  deriving DecidableEq, Repr

def TimerClock.name : TimerClock → String
  | .perTick => "per-tick"
  | .sixtyHertz => "60Hz"

def timerPeriod : Duration := .ofMicroseconds 16667

structure Settings where
  interval : Duration := Pace.normal.interval
  clock : TimerClock := .perTick
  /-- Without a seed, one is to be drawn when the session starts. -/
  seed : Option UInt64 := none
  deriving DecidableEq, Repr

end Chip8
