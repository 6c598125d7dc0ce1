import Chip8.Proofs.SessionHistory
/-!
The phases of a session over its whole life. Each command is taken in its own phases and leads to one
phase, the ticker comes and goes with the running phase, and the interval is the one that was chosen
last.
-/

namespace Chip8

namespace Session

/-! ### The interval -/

/-- The interval that an event chooses. A load that is accepted goes back to the configured one. -/
def chosenInterval? (session : Session) (configured : Duration) : SessionEvent → Option Duration
  | .command (.load program) thread =>
      if (session.load program thread).1.isOk then some configured else none
  | .command (.loadFrom source) thread =>
      if (session.loadFrom source thread).1.isOk then some configured else none
  | .command (.setInterval interval) _ => some interval
  | .command (.choosePace pace) _ => some pace.interval
  | _ => none

def chosenIntervals (session : Session) (configured : Duration) : List SessionEvent → List Duration
  | [] => []
  | event :: rest =>
      (session.chosenInterval? configured event).toList ++
        (session.afterEvent event).chosenIntervals configured rest

theorem inPhase_interval {session : Session} {action : PhaseAction} {change : Session → Reply}
    (kept : (change session).2.interval = session.interval) :
    (session.inPhase action change).2.interval = session.interval := by
  unfold inPhase
  split
  · exact kept
  · rfl

theorem load_interval (session : Session) (program : List UInt8) :
    (session.load program (.ok ())).2.interval =
      (if (session.load program (.ok ())).1.isOk then some session.configuredInterval
        else none).getD session.interval := by
  have outcome := session.load_reply program (.ok ())
  generalize session.load program (.ok ()) = reply at outcome ⊢
  cases outcome with
  | accepted fits => rfl
  | refused tooLarge granted => rfl

theorem afterEvent_interval (session : Session) {event : SessionEvent} (granted : event.Granted) :
    (session.afterEvent event).interval =
      (session.chosenInterval? session.configuredInterval event).getD session.interval := by
  cases event with
  | command command thread =>
      obtain rfl : thread = .ok () := granted
      cases command with
      | load program => exact session.load_interval program
      | loadFrom source =>
          change (session.loadFrom source (.ok ())).2.interval =
            (if (session.loadFrom source (.ok ())).1.isOk then some session.configuredInterval
              else none).getD session.interval
          rcases session.loadFrom_cases source (.ok ()) with
            ⟨reason, _, refused⟩ | ⟨program, _, loads⟩
          · rw [refused]
            rfl
          · rw [loads]
            exact session.load_interval program
      | pause | resume | step => exact inPhase_interval rfl
      | setInterval interval => rfl
      | choosePace pace =>
          change (session.choosePace pace (.ok ())).2.interval = pace.interval
          rw [choosePace_eq session pace fun _ => rfl]
          dsimp only
          split <;> rfl
      | reset => rfl
  | beat timersDue =>
      change (session.backgroundBeat timersDue).interval = session.interval
      rcases session.backgroundBeat_cases timersDue with same | ⟨count, beaten⟩
      · rw [same]
      · rw [beaten]
        rfl
  | key operation | screen operation | connect device => rfl

theorem Coherent.interval_afterEvents {settings : Settings} {session : Session}
    (coherent : session.Coherent settings) {events : List SessionEvent}
    (granted : ∀ event ∈ events, event.Granted) :
    (session.afterEvents events).interval =
      (session.chosenIntervals settings.interval events).getLast?.getD session.interval := by
  induction events generalizing session with
  | nil => rfl
  | cons event rest ih =>
      have first := granted event List.mem_cons_self
      have later := fun other listed => granted other (List.mem_cons_of_mem event listed)
      have next := session.afterEvent_interval first
      rw [coherent.configured_eq] at next
      change ((session.afterEvent event).afterEvents rest).interval = _
      rw [ih (coherent.afterEvent first) later, next, chosenIntervals, List.getLast?_append,
        Option.getD_or]
      cases session.chosenInterval? settings.interval event <;> rfl

/-! ### The phases -/

theorem load_isOk_iff (session : Session) (program : List UInt8) (thread : SystemAnswer) :
    (session.load program thread).1 = .ok () ↔
      program.length ≤ programCapacity ∧ thread = .ok () := by
  have outcome := session.load_reply program thread
  generalize session.load program thread = reply at outcome ⊢
  cases outcome with
  | accepted fits => exact iff_of_true rfl ⟨fits, rfl⟩
  | refused tooLarge granted =>
      refine iff_of_false (fun answered => by cases answered) ?_
      exact fun both => Nat.not_le_of_lt tooLarge both.1
  | threadless fits problem | halted tooLarge runs problem =>
      refine iff_of_false (fun answered => by cases answered) ?_
      exact fun both => by cases both.2

theorem phase_of_load {session next : Session} {program : List UInt8} {thread : SystemAnswer}
    (accepted : session.load program thread = (.ok (), next)) : next.phase = .running := by
  have outcome := session.load_reply program thread
  rw [accepted] at outcome
  cases outcome
  rfl

theorem load_of_loadFrom {session next : Session} {source : ByteSource} {thread : SystemAnswer}
    (accepted : session.loadFrom source thread = (.ok (), next)) :
    ∃ program, session.load program thread = (.ok (), next) := by
  rcases session.loadFrom_cases source thread with ⟨reason, _, refused⟩ | ⟨program, _, loads⟩
  · rw [refused] at accepted
    cases accepted
  · exact ⟨program, loads.symm.trans accepted⟩

theorem choosePace_keeps (session : Session) (pace : Pace) {thread : SystemAnswer}
    (granted : session.phase = .running → thread = .ok ()) :
    (session.choosePace pace thread).1 = .ok () ∧
      (session.choosePace pace thread).2.phase = session.phase ∧
      (session.choosePace pace thread).2.machine = session.machine := by
  rw [choosePace_eq session pace granted]
  dsimp only
  split
  · exact ⟨rfl, rfl, rfl⟩
  · exact ⟨rfl, rfl, rfl⟩

/-- How a session with these settings takes its commands: a command that belongs to another phase is
refused with its reason and changes nothing, and one that needs a thread fails without it. -/
structure FollowsPhases (settings : Settings) (session : Session) : Prop where
  running_of_ticker : session.ticker.isSome = true → session.phase = .running
  backgroundBeat_eq : session.phase ≠ .running →
    ∀ timersDue, session.backgroundBeat timersDue = session
  pause_eq : session.pause =
    if session.phase = .running then
      (.ok (), { session with phase := .paused, ticker := none })
    else (.error (.outOfPhase .pause session.phase), session)
  resume_eq : session.resume (.ok ()) =
    if session.phase = .paused then
      (.ok (), { session with
        phase := .running
        ticker := some ⟨session.interval, settings.clock⟩ })
    else (.error (.outOfPhase .resume session.phase), session)
  resume_of_error : ∀ problem, session.resume (.error problem) =
    if session.phase = .paused then (.error (.system problem), session)
    else (.error (.outOfPhase .resume session.phase), session)
  step_eq : session.step =
    if session.phase = .paused then
      (.ok (), { session with
        machine := session.machine.tick.1
        sound := session.sound.signal? session.machine.tick.2 })
    else (.error (.outOfPhase .step session.phase), session)
  load_ok_iff : ∀ program thread,
    (session.load program thread).1 = .ok () ↔ program.length ≤ 3584 ∧ thread = .ok ()
  phase_of_load : ∀ program thread next,
    session.load program thread = (.ok (), next) → next.phase = .running
  phase_of_loadFrom : ∀ source thread next,
    session.loadFrom source thread = (.ok (), next) → next.phase = .running
  load_of_error : ∀ program problem, program.length ≤ 3584 →
    session.load program (.error problem) =
      (.error (.system problem), session.furnished program)
  phase_of_reset : session.reset.phase = .idle
  choosePace_keeps : ∀ pace thread, (session.phase = .running → thread = .ok ()) →
    (session.choosePace pace thread).1 = .ok () ∧
      (session.choosePace pace thread).2.phase = session.phase ∧
      (session.choosePace pace thread).2.machine = session.machine
  choosePace_of_error : session.phase = .running → ∀ pace problem,
    session.choosePace pace (.error problem) =
      (.error (.system problem),
        { session with
          phase := .paused
          interval := pace.interval
          ticker := none })
  setInterval_eq : ∀ interval, session.setInterval interval = { session with interval := interval }
  clock_eq : session.clock = settings.clock

theorem Configured.followsPhases {settings : Settings} {session : Session}
    (configured : session.Configured settings) : session.FollowsPhases settings where
  running_of_ticker := configured.running_of_ticker
  backgroundBeat_eq := configured.backgroundBeat_of_resting
  pause_eq := rfl
  resume_eq := by
    rw [← configured.clock_eq]
    rfl
  resume_of_error := fun _ => rfl
  step_eq := rfl
  load_ok_iff := session.load_isOk_iff
  phase_of_load := fun _ _ _ accepted => phase_of_load accepted
  phase_of_loadFrom := by
    intro source thread next accepted
    obtain ⟨program, loads⟩ := load_of_loadFrom accepted
    exact phase_of_load loads
  load_of_error := fun _ problem fits => session.load_of_fits_of_error fits problem
  phase_of_reset := rfl
  choosePace_keeps := fun pace _ granted => session.choosePace_keeps pace granted
  choosePace_of_error := fun runs pace problem => session.choosePace_of_error pace runs problem
  setInterval_eq := fun _ => rfl
  clock_eq := configured.clock_eq

/-- After any history a session takes its commands by its phase: pausing needs a running session,
resuming and stepping a paused one; a program that fits is accepted and runs, and a reset idles; a pace
is taken in every phase and keeps it; the clock is the configured one, and nothing beats unless the
session runs. A refused thread makes a load, a resumption or a change of pace fail, and nothing else. As
long as none has been refused, a running session has its ticker, its interval is the last one chosen,
where an accepted load chooses the configured one, and an idle session has no program and has used none
of its random words. -/
theorem reachable_session_follows_phases (settings : Settings) (drawnSeed : UInt64)
    (sound : SoundDevice) (events : List SessionEvent) :
    let new := start settings drawnSeed sound
    let session := new.afterEvents events
    session.FollowsPhases settings ∧
      ((∀ event ∈ events, event.Granted) →
        (session.ticker.isSome = true ↔ session.phase = .running) ∧
          session.interval =
            (new.chosenIntervals settings.interval events).getLast?.getD settings.interval ∧
          (session.phase = .idle →
            session.machine.registers = Registers.initial ∧
              session.machine.memory = Memory.initial ∧ session.machine.random.position = 0 ∧
              ∀ seed, settings.seed = some seed →
                session.machine.random = Random.Stream.start seed)) := by
  intro new session
  refine ⟨(reachable_configured settings drawnSeed sound events).followsPhases, ?_⟩
  intro granted
  have coherent := reachable_coherent settings drawnSeed sound granted
  refine ⟨coherent.ticker_iff,
    (Coherent.start settings drawnSeed sound).interval_afterEvents granted, ?_⟩
  intro idle
  obtain ⟨registers, memory, random⟩ := coherent.unprogrammed idle
  refine ⟨registers, memory, congrArg Random.Stream.position random, ?_⟩
  intro seed given
  rw [random, coherent.seed_eq seed given]

/-- A counting program is paused and stepped at a pace of its own, and then reset. -/
theorem counter_paused_stepped_and_reset :
    let settings : Settings := { seed := some 1 }
    let new := start settings 0 .mute
    let events : List SessionEvent :=
      [.command (.load [0x70, 0x01, 0x12, 0x00]) (.ok ()), .beat 1, .command .pause (.ok ()),
        .command (.choosePace .fast) (.ok ()), .command .step (.ok ())]
    let session := new.afterEvents events
    let idle := new.afterEvents (events ++ [.command .reset (.ok ())])
    let problem : SystemProblem := ⟨"Resource temporarily unavailable", 11⟩
    (∀ event ∈ events ++ [.command .reset (.ok ())], event.Granted) ∧
      session.phase = .paused ∧ session.step.1 = .ok () ∧
      session.pause = (.error (.outOfPhase .pause .paused), session) ∧
      session.resume (.error problem) = (.error (.system problem), session) ∧
      idle.phase = .idle ∧ idle.machine.random = Random.Stream.start 1 ∧
      idle.interval = Pace.fast.interval := by
  intro settings new events session idle problem
  have granted : ∀ event ∈ events ++ [.command .reset (.ok ())], event.Granted := by decide
  obtain ⟨follows, _⟩ := reachable_session_follows_phases settings 0 .mute events
  obtain ⟨_, idles⟩ := reachable_session_follows_phases settings 0 .mute
    (events ++ [.command .reset (.ok ())])
  obtain ⟨_, chosen, unprogrammed⟩ := idles granted
  have paused : session.phase = .paused := by decide +kernel
  have resets : idle.phase = .idle := by decide +kernel
  have last : (new.chosenIntervals settings.interval
      (events ++ [.command .reset (.ok ())])).getLast? = some Pace.fast.interval := by
    decide +kernel
  refine ⟨granted, paused, ?_, ?_, ?_, resets, ?_, ?_⟩
  · rw [follows.step_eq, if_pos paused]
  · have pause := follows.pause_eq
    rw [if_neg (by rw [paused]; decide), paused] at pause
    exact pause
  · rw [follows.resume_of_error, if_pos paused]
  · exact (unprogrammed resets).2.2.2 1 rfl
  · rw [chosen, last]
    rfl

end Session

end Chip8
