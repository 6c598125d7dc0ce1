import Chip8.Proofs.Parked
import Chip8.Proofs.RandomWords
import Chip8.Proofs.Restart
/-!
Everything that can happen to a session, as values, and what it answers. Between commands the background
beat may come at any time, but only a session with a ticker hears it. As long as the system grants every
thread that is asked for, there is a ticker exactly while the session runs, and an idle session holds a
machine without a program.
-/

namespace Chip8

/-- What can happen to a session: a command with the answer to the thread that it may ask for, a
background beat with the sixtieths of a second that have come due by then, keys and screen worked from
outside, or another sound device. -/
inductive SessionEvent where
  | command (command : Session.Command) (thread : SystemAnswer)
  | beat (timersDue : Nat)
  | key (operation : KeyOperation)
  | screen (operation : ScreenOperation)
  | connect (device : SoundDevice)

/-- The system grants the thread, should one be asked for. -/
def SessionEvent.Granted : SessionEvent → Prop
  | .command _ thread => thread = .ok ()
  | _ => True

instance : DecidablePred SessionEvent.Granted
  | .command _ thread => inferInstanceAs (Decidable (thread = .ok ()))
  | .beat _ | .key _ | .screen _ | .connect _ => inferInstanceAs (Decidable True)

inductive Answer where
  | nothing
  | signal (tone : Option Tone)
  | instruction (outcome : Except Fault Instruction)
  | execution (outcome : Except Fault Unit)
  | load (outcome : Except LoadError Unit)
  | key (outcome : Except Fault Unit)
  | pixel (lit : Bool)
  | painted (cells : List Cell)
  | command (outcome : Except Refusal Unit)

def Keypad.answer (keypad : Keypad) : KeyOperation → Answer
  | .press key => .key (keypad.press key).1
  | .release key => .key (keypad.release key).1
  | .releaseAll => .nothing

def Screen.answer (screen : Screen) : ScreenOperation → Answer
  | .toggle x y => .pixel (screen.pixels.get x y)
  | .sweep => .painted screen.dueCells
  | _ => .nothing

namespace Machine

/-- No program has been loaded since the machine was switched on. Keys and screen may have been worked
from outside. -/
structure Unprogrammed (machine : Machine) : Prop where
  registers_eq : machine.registers = Registers.initial
  memory_eq : machine.memory = Memory.initial
  random_eq : machine.random = Random.Stream.start machine.random.seed

theorem beat_seed (machine : Machine) (count : Nat) :
    (machine.beat count).1.random.seed = machine.random.seed := by
  rw [beat_fst, stepped_random, countDownTimes_fst]
  exact Random.Stream.afterAll_seed _ _

end Machine

namespace Session

/-! ### What the commands do -/

def furnished (session : Session) (program : List UInt8) : Session :=
  { session with
    machine :=
      { session.machine.reset with
        memory := Memory.initial.overlay programStart.toNat program }
    interval := session.configuredInterval
    ticker := none
    sound := session.sound.signal .stop }

def started (session : Session) (program : List UInt8) : Session :=
  { session.furnished program with
    phase := .running
    ticker := some ⟨session.configuredInterval, session.clock⟩ }

/-- What a refused load leaves: the ticker, if there is to be one, has been started again. -/
def carriedOn (session : Session) : Session :=
  { session with
    ticker := if session.phase = .running then some ⟨session.interval, session.clock⟩ else none }

theorem load_of_fits (session : Session) {program : List UInt8}
    (fits : program.length ≤ programCapacity) :
    session.load program (.ok ()) = (.ok (), session.started program) := by
  rw [load, session.stopTicker.machine.load_of_fits fits]
  rfl

theorem load_of_fits_of_error (session : Session) {program : List UInt8}
    (fits : program.length ≤ programCapacity) (problem : SystemProblem) :
    session.load program (.error problem) =
      (.error (.system problem), session.furnished program) := by
  rw [load, session.stopTicker.machine.load_of_fits fits]
  rfl

theorem load_of_tooLarge (session : Session) {program : List UInt8}
    (tooLarge : programCapacity < program.length) {thread : SystemAnswer}
    (granted : session.phase = .running → thread = .ok ()) :
    session.load program thread =
      (.error (.load (.tooLarge program.length)), session.carriedOn) := by
  rw [load, session.stopTicker.machine.load_of_tooLarge tooLarge]
  dsimp only
  unfold carriedOn
  by_cases runs : session.phase = .running
  · rw [if_pos runs, if_pos runs, granted runs]
    rfl
  · rw [if_neg runs, if_neg runs]
    rfl

theorem load_of_tooLarge_of_error (session : Session) {program : List UInt8}
    (tooLarge : programCapacity < program.length) (runs : session.phase = .running)
    (problem : SystemProblem) :
    session.load program (.error problem) =
      (.error (.system problem), { session with ticker := none }) := by
  rw [load, session.stopTicker.machine.load_of_tooLarge tooLarge]
  dsimp only
  rw [if_pos runs]
  rfl

/-- What a load can come to, by its program and by the answer to the thread for its ticker. -/
inductive LoadReply (session : Session) (program : List UInt8) : SystemAnswer → Reply → Prop where
  | accepted (fits : program.length ≤ programCapacity) :
      session.LoadReply program (.ok ()) (.ok (), session.started program)
  | threadless (fits : program.length ≤ programCapacity) (problem : SystemProblem) :
      session.LoadReply program (.error problem)
        (.error (.system problem), session.furnished program)
  | refused (tooLarge : programCapacity < program.length) {thread : SystemAnswer}
      (granted : session.phase = .running → thread = .ok ()) :
      session.LoadReply program thread
        (.error (.load (.tooLarge program.length)), session.carriedOn)
  | halted (tooLarge : programCapacity < program.length) (runs : session.phase = .running)
      (problem : SystemProblem) :
      session.LoadReply program (.error problem)
        (.error (.system problem), { session with ticker := none })

theorem load_reply (session : Session) (program : List UInt8) (thread : SystemAnswer) :
    session.LoadReply program thread (session.load program thread) := by
  rcases Nat.lt_or_ge programCapacity program.length with tooLarge | fits
  · by_cases granted : session.phase = .running → thread = .ok ()
    · rw [session.load_of_tooLarge tooLarge granted]
      exact .refused tooLarge granted
    · obtain ⟨runs, lacks⟩ := Classical.not_imp.mp granted
      cases thread with
      | ok answer => exact absurd rfl lacks
      | error problem =>
          rw [session.load_of_tooLarge_of_error tooLarge runs]
          exact .halted tooLarge runs problem
  · cases thread with
    | ok answer =>
        rw [session.load_of_fits fits]
        exact .accepted fits
    | error problem =>
        rw [session.load_of_fits_of_error fits]
        exact .threadless fits problem

theorem loadFrom_cases (session : Session) (source : ByteSource) (thread : SystemAnswer) :
    (∃ reason, source.readToEnd = .error reason ∧
        session.loadFrom source thread = (.error (.load reason), session)) ∨
      ∃ program, source.readToEnd = .ok program ∧
        session.loadFrom source thread = session.load program thread := by
  unfold loadFrom
  cases read : source.readToEnd with
  | error reason => exact .inl ⟨reason, rfl, rfl⟩
  | ok program => exact .inr ⟨program, rfl, rfl⟩

theorem inPhase_of_eq {session : Session} {action : PhaseAction}
    (allowed : session.phase = action.requires) (change : Session → Reply) :
    session.inPhase action change = change session :=
  if_pos allowed

theorem inPhase_of_ne {session : Session} {action : PhaseAction}
    (barred : session.phase ≠ action.requires) (change : Session → Reply) :
    session.inPhase action change = (.error (.outOfPhase action session.phase), session) :=
  if_neg barred

/-- The ticker is not looked at, so it may be any that such a session has. -/
theorem choosePace_eq (session : Session) (pace : Pace) {thread : SystemAnswer}
    (granted : session.phase = .running → thread = .ok ()) :
    session.choosePace pace thread = (.ok (),
      if session.phase = .running then
        { session with
          interval := pace.interval
          ticker := some ⟨pace.interval, session.clock⟩ }
      else session.setInterval pace.interval) := by
  obtain ⟨machine, phase, interval, configuredInterval, clock, ticker, sound⟩ := session
  cases phase with
  | running =>
      rw [granted rfl]
      rfl
  | idle | paused => rfl

/-- Without a thread the session stays where pausing has brought it. -/
theorem choosePace_of_error (session : Session) (pace : Pace) (runs : session.phase = .running)
    (problem : SystemProblem) :
    session.choosePace pace (.error problem) =
      (.error (.system problem),
        { session with
          phase := .paused
          interval := pace.interval
          ticker := none }) := by
  obtain ⟨machine, phase, interval, configuredInterval, clock, ticker, sound⟩ := session
  obtain rfl : phase = .running := runs
  rfl

/-! ### Histories -/

def afterEvent (session : Session) : SessionEvent → Session
  | .command command thread => (session.obey thread command).2
  | .beat timersDue => session.backgroundBeat timersDue
  | .key operation => { session with machine := session.machine.afterKey operation }
  | .screen operation =>
      { session with machine := session.machine.afterOperation (.screen operation) }
  | .connect device => { session with sound := device }

def afterEvents (session : Session) (events : List SessionEvent) : Session :=
  events.foldl afterEvent session

def answer (session : Session) : SessionEvent → Answer
  | .command command thread => .command (session.obey thread command).1
  | .key operation => session.machine.keypad.answer operation
  | .screen operation => session.machine.screen.answer operation
  | .beat _ | .connect _ => .nothing

def answers (session : Session) : List SessionEvent → List Answer
  | [] => []
  | event :: rest => session.answer event :: (session.afterEvent event).answers rest

theorem afterEvents_induction (kept : Session → Prop) {allowed : SessionEvent → Prop}
    (event_keeps : ∀ session event, allowed event → kept session → kept (session.afterEvent event))
    {session : Session} (initial : kept session) (events : List SessionEvent)
    (all : ∀ event ∈ events, allowed event) : kept (session.afterEvents events) :=
  List.foldlRecOn events afterEvent initial fun before here event member =>
    event_keeps before event (all event member) here

/-! ### The invariants -/

/-- What is true of a session with these settings at any time, whatever the system has answered. -/
structure Configured (settings : Settings) (session : Session) : Prop where
  clock_eq : session.clock = settings.clock
  configured_eq : session.configuredInterval = settings.interval
  seed_eq : ∀ seed ∈ settings.seed, session.machine.random.seed = seed
  running_of_ticker : session.ticker.isSome = true → session.phase = .running

/-- What is true of it as long as every thread has been granted. -/
structure Coherent (settings : Settings) (session : Session) : Prop
    extends session.Configured settings where
  ticker_of_running : session.phase = .running → session.ticker.isSome = true
  ticker_clock : ∀ ticker ∈ session.ticker, ticker.clock = session.clock
  unprogrammed : session.phase = .idle → session.machine.Unprogrammed

namespace Configured

variable {settings : Settings} {session : Session}

theorem start (settings : Settings) (drawnSeed : UInt64) (sound : SoundDevice) :
    (Session.start settings drawnSeed sound).Configured settings where
  clock_eq := rfl
  configured_eq := rfl
  seed_eq := by
    intro seed given
    change settings.seed.getD drawnSeed = seed
    rw [Option.mem_def.mp given]
    rfl
  running_of_ticker := nofun

theorem of_eq (configured : session.Configured settings) {next : Session}
    (clock : next.clock = session.clock)
    (interval : next.configuredInterval = session.configuredInterval)
    (seed : next.machine.random.seed = session.machine.random.seed)
    (ticker : next.ticker.isSome = true → next.phase = .running) : next.Configured settings where
  clock_eq := clock.trans configured.clock_eq
  configured_eq := interval.trans configured.configured_eq
  seed_eq := fun given named => seed.trans (configured.seed_eq given named)
  running_of_ticker := ticker

theorem ticker_eq_none (configured : session.Configured settings)
    (resting : session.phase ≠ .running) : session.ticker = none := by
  apply Option.not_isSome_iff_eq_none.mp
  exact fun beats => resting (configured.running_of_ticker beats)

theorem backgroundBeat_of_resting (configured : session.Configured settings)
    (resting : session.phase ≠ .running) (timersDue : Nat) :
    session.backgroundBeat timersDue = session := by
  unfold Session.backgroundBeat
  rw [configured.ticker_eq_none resting]

theorem carriedOn (configured : session.Configured settings) :
    session.carriedOn.Configured settings := by
  refine configured.of_eq rfl rfl rfl ?_
  unfold Session.carriedOn
  by_cases runs : session.phase = .running
  · exact fun _ => runs
  · rw [if_neg runs]
    exact nofun

theorem load (configured : session.Configured settings) (program : List UInt8)
    (thread : SystemAnswer) : (session.load program thread).2.Configured settings := by
  have outcome := session.load_reply program thread
  generalize session.load program thread = reply at outcome ⊢
  cases outcome with
  | accepted fits => exact configured.of_eq rfl rfl rfl fun _ => rfl
  | threadless fits problem => exact configured.of_eq rfl rfl rfl nofun
  | refused tooLarge granted => exact configured.carriedOn
  | halted tooLarge runs problem => exact configured.of_eq rfl rfl rfl nofun

theorem inPhase (configured : session.Configured settings) {action : PhaseAction}
    {change : Session → Reply} (changes : (change session).2.Configured settings) :
    (session.inPhase action change).2.Configured settings := by
  by_cases allowed : session.phase = action.requires
  · rw [inPhase_of_eq allowed]
    exact changes
  · rw [inPhase_of_ne allowed]
    exact configured

theorem resume (configured : session.Configured settings) (thread : SystemAnswer) :
    (session.resume thread).2.Configured settings := by
  refine configured.inPhase ?_
  cases thread with
  | ok granted => exact configured.of_eq rfl rfl rfl fun _ => rfl
  | error problem => exact configured

theorem choosePace (configured : session.Configured settings) (pace : Pace)
    (thread : SystemAnswer) : (session.choosePace pace thread).2.Configured settings := by
  by_cases runs : session.phase = .running
  · cases thread with
    | ok granted =>
        rw [choosePace_eq session pace fun _ => rfl, if_pos runs]
        exact configured.of_eq rfl rfl rfl fun _ => runs
    | error problem =>
        rw [choosePace_of_error session pace runs]
        exact configured.of_eq rfl rfl rfl nofun
  · rw [choosePace_eq session pace fun running => absurd running runs, if_neg runs]
    exact configured.of_eq rfl rfl rfl configured.running_of_ticker

theorem obey (configured : session.Configured settings) (command : Command)
    (thread : SystemAnswer) : (session.obey thread command).2.Configured settings := by
  cases command with
  | load program => exact configured.load program thread
  | loadFrom source =>
      rcases session.loadFrom_cases source thread with ⟨reason, _, refused⟩ | ⟨program, _, loads⟩
      · rw [Session.obey, refused]
        exact configured
      · rw [Session.obey, loads]
        exact configured.load program thread
  | pause => exact configured.inPhase (configured.of_eq rfl rfl rfl nofun)
  | resume => exact configured.resume thread
  | step =>
      exact configured.inPhase
        (configured.of_eq rfl rfl (session.machine.beat_seed 1) configured.running_of_ticker)
  | setInterval interval => exact configured.of_eq rfl rfl rfl configured.running_of_ticker
  | choosePace pace => exact configured.choosePace pace thread
  | reset => exact configured.of_eq rfl rfl rfl nofun

theorem afterEvent (configured : session.Configured settings) (event : SessionEvent) :
    (session.afterEvent event).Configured settings := by
  cases event with
  | command command thread => exact configured.obey command thread
  | beat timersDue =>
      change (session.backgroundBeat timersDue).Configured settings
      rcases session.backgroundBeat_cases timersDue with same | ⟨count, beaten⟩
      · rw [same]
        exact configured
      · rw [beaten]
        exact configured.of_eq rfl rfl (session.machine.beat_seed count) configured.running_of_ticker
  | key operation | screen operation | connect device =>
      exact configured.of_eq rfl rfl rfl configured.running_of_ticker

end Configured

theorem reachable_configured (settings : Settings) (drawnSeed : UInt64) (sound : SoundDevice)
    (events : List SessionEvent) :
    ((start settings drawnSeed sound).afterEvents events).Configured settings :=
  afterEvents_induction (·.Configured settings)
    (fun _ event _ configured => configured.afterEvent event)
    (Configured.start settings drawnSeed sound) events fun _ _ => trivial

namespace Coherent

variable {settings : Settings} {session : Session}

theorem start (settings : Settings) (drawnSeed : UInt64) (sound : SoundDevice) :
    (Session.start settings drawnSeed sound).Coherent settings where
  toConfigured := .start settings drawnSeed sound
  ticker_of_running := nofun
  ticker_clock := nofun
  unprogrammed := fun _ => ⟨rfl, rfl, rfl⟩

theorem ticker_iff (coherent : session.Coherent settings) :
    session.ticker.isSome = true ↔ session.phase = .running :=
  ⟨coherent.running_of_ticker, coherent.ticker_of_running⟩

theorem ticker_eq_some (coherent : session.Coherent settings) (running : session.phase = .running) :
    ∃ interval, session.ticker = some ⟨interval, session.clock⟩ := by
  obtain ⟨⟨interval, clock⟩, beats⟩ := Option.isSome_iff_exists.mp (coherent.ticker_iff.mpr running)
  have same : clock = session.clock := coherent.ticker_clock _ beats
  exact ⟨interval, by rw [beats, same]⟩

theorem running (coherent : session.Coherent settings) (machine : Machine)
    (seed : machine.random.seed = session.machine.random.seed) (interval : Duration)
    (sound : SoundDevice) :
    Coherent settings
      { session with
        machine := machine
        phase := .running
        interval := interval
        ticker := some ⟨interval, session.clock⟩
        sound := sound } where
  toConfigured := coherent.toConfigured.of_eq rfl rfl seed fun _ => rfl
  ticker_of_running := fun _ => rfl
  ticker_clock := by
    intro ticker present
    rw [← Option.some.inj present]
  unprogrammed := fun idle => by cases idle

theorem resting (coherent : session.Coherent settings) (machine : Machine)
    (seed : machine.random.seed = session.machine.random.seed) {phase : Phase}
    (still : phase ≠ .running) (unprogrammed : phase = .idle → machine.Unprogrammed)
    (sound : SoundDevice) :
    Coherent settings
      { session with
        machine := machine
        phase := phase
        ticker := none
        sound := sound } where
  toConfigured := coherent.toConfigured.of_eq rfl rfl seed nofun
  ticker_of_running := fun runs => absurd runs still
  ticker_clock := nofun
  unprogrammed := unprogrammed

theorem withMachine (coherent : session.Coherent settings) (machine : Machine)
    (seed : machine.random.seed = session.machine.random.seed)
    (unprogrammed : session.phase = .idle → machine.Unprogrammed) (sound : SoundDevice) :
    Coherent settings { session with machine := machine, sound := sound } :=
  { coherent with
    toConfigured := coherent.toConfigured.of_eq rfl rfl seed coherent.running_of_ticker
    unprogrammed := unprogrammed }

theorem withInterval (coherent : session.Coherent settings) (interval : Duration) :
    (session.setInterval interval).Coherent settings :=
  { coherent with toConfigured := coherent.toConfigured.of_eq rfl rfl rfl coherent.running_of_ticker }

theorem carriedOn (coherent : session.Coherent settings) : session.carriedOn.Coherent settings := by
  unfold Session.carriedOn
  by_cases runs : session.phase = .running
  · rw [if_pos runs]
    have started := coherent.running session.machine rfl session.interval session.sound
    rw [← runs] at started
    exact started
  · rw [if_neg runs]
    exact coherent.resting session.machine rfl runs coherent.unprogrammed session.sound

theorem load (coherent : session.Coherent settings) (program : List UInt8) :
    (session.load program (.ok ())).2.Coherent settings := by
  have outcome := session.load_reply program (.ok ())
  generalize session.load program (.ok ()) = reply at outcome ⊢
  cases outcome with
  | accepted fits => exact coherent.running (session.started program).machine rfl _ _
  | refused tooLarge granted => exact coherent.carriedOn

theorem inPhase (coherent : session.Coherent settings) {action : PhaseAction}
    {change : Session → Reply}
    (changes : session.phase = action.requires → (change session).2.Coherent settings) :
    (session.inPhase action change).2.Coherent settings := by
  by_cases allowed : session.phase = action.requires
  · rw [inPhase_of_eq allowed]
    exact changes allowed
  · rw [inPhase_of_ne allowed]
    exact coherent

theorem tick (coherent : session.Coherent settings) (programmed : session.phase ≠ .idle)
    (count : Nat) : (session.beat count).Coherent settings :=
  coherent.withMachine _ (session.machine.beat_seed count) (fun idle => absurd idle programmed) _

theorem obey (coherent : session.Coherent settings) (command : Command) :
    (session.obey (.ok ()) command).2.Coherent settings := by
  cases command with
  | load program => exact coherent.load program
  | loadFrom source =>
      rcases session.loadFrom_cases source (.ok ()) with
        ⟨reason, _, refused⟩ | ⟨program, _, loads⟩
      · rw [Session.obey, refused]
        exact coherent
      · rw [Session.obey, loads]
        exact coherent.load program
  | pause =>
      refine coherent.inPhase fun _ => ?_
      exact coherent.resting session.machine rfl (by decide) (fun idle => by cases idle) session.sound
  | resume =>
      refine coherent.inPhase fun _ => ?_
      exact coherent.running session.machine rfl session.interval session.sound
  | step =>
      refine coherent.inPhase fun paused => coherent.tick ?_ 1
      rw [paused]
      decide
  | setInterval interval => exact coherent.withInterval interval
  | choosePace pace =>
      rw [Session.obey, choosePace_eq session pace fun _ => rfl]
      dsimp only
      by_cases runs : session.phase = .running
      · rw [if_pos runs]
        have retimed := coherent.running session.machine rfl pace.interval session.sound
        rw [← runs] at retimed
        exact retimed
      · rw [if_neg runs]
        exact coherent.withInterval pace.interval
  | reset =>
      exact coherent.resting session.machine.reset rfl (by decide) (fun _ => ⟨rfl, rfl, rfl⟩) _

theorem backgroundBeat (coherent : session.Coherent settings) (timersDue : Nat) :
    (session.backgroundBeat timersDue).Coherent settings := by
  by_cases runs : session.phase = .running
  · rcases session.backgroundBeat_cases timersDue with same | ⟨count, beaten⟩
    · rw [same]
      exact coherent
    · rw [beaten]
      refine coherent.tick ?_ count
      rw [runs]
      decide
  · rw [coherent.backgroundBeat_of_resting runs]
    exact coherent

theorem afterEvent (coherent : session.Coherent settings) {event : SessionEvent}
    (granted : event.Granted) : (session.afterEvent event).Coherent settings := by
  cases event with
  | command command thread =>
      obtain rfl : thread = .ok () := granted
      exact coherent.obey command
  | beat timersDue => exact coherent.backgroundBeat timersDue
  | key operation =>
      exact coherent.withMachine (session.machine.afterKey operation) rfl
        (fun idle => { coherent.unprogrammed idle with }) session.sound
  | screen operation =>
      exact coherent.withMachine (session.machine.afterOperation (.screen operation)) rfl
        (fun idle => { coherent.unprogrammed idle with }) session.sound
  | connect device => exact coherent.withMachine session.machine rfl coherent.unprogrammed device

end Coherent

theorem reachable_coherent (settings : Settings) (drawnSeed : UInt64) (sound : SoundDevice)
    {events : List SessionEvent} (granted : ∀ event ∈ events, event.Granted) :
    ((start settings drawnSeed sound).afterEvents events).Coherent settings :=
  afterEvents_induction (·.Coherent settings)
    (fun _ _ allowed coherent => coherent.afterEvent allowed)
    (Coherent.start settings drawnSeed sound) events granted

end Session

end Chip8
