import Chip8.Proofs.SessionHistory
/-!
A load that is refused. The program is judged before anything is touched, and a session that has stopped
its ticker for the attempt starts it again, so the session goes on as if there had been no attempt. Only
the ticker may beat at another interval, if one has been chosen since it was started.
-/

namespace Chip8

/-! ### What is refused -/

/-- A read fails for good before one hands out nothing. -/
def ReadAnswer.FailHard (answers : List ReadAnswer) : Prop :=
  ∃ before later, answers = before ++ .failed :: later ∧
    ∀ answer ∈ before, answer ≠ .failed ∧ answer ≠ .data []

theorem ReadAnswer.not_failHard_nil : ¬FailHard [] := by
  rintro ⟨before, later, split, _⟩
  exact List.append_ne_nil_of_right_ne_nil before (List.cons_ne_nil _ _) split.symm

theorem ReadAnswer.failHard_cons (answer : ReadAnswer) (rest : List ReadAnswer) :
    FailHard (answer :: rest) ↔ answer = .failed ∨ answer ≠ .data [] ∧ FailHard rest := by
  constructor
  · rintro ⟨before, later, split, passed⟩
    cases before with
    | nil => exact .inl (List.cons.inj split).1
    | cons first others =>
        obtain ⟨rfl, same⟩ := List.cons.inj split
        have passedLater := fun other listed => passed other (List.mem_cons_of_mem answer listed)
        exact .inr ⟨(passed answer List.mem_cons_self).2, others, later, same, passedLater⟩
  · intro fails
    by_cases now : answer = .failed
    · exact ⟨[], rest, congrArg (· :: rest) now, fun _ listed => by cases listed⟩
    · obtain ⟨more, before, later, rfl, passed⟩ := fails.resolve_left now
      refine ⟨answer :: before, later, rfl, ?_⟩
      intro other listed
      rcases List.mem_cons.mp listed with rfl | behind
      · exact ⟨now, more⟩
      · exact passed other behind

theorem gather_eq_unreadable_iff (taken : List (List UInt8)) (answers : List ReadAnswer) :
    gather taken answers = .error .unreadable ↔ ReadAnswer.FailHard answers := by
  fun_induction gather taken answers with
  | case1 taken => simp [ReadAnswer.not_failHard_nil]
  | case2 taken later => simp [ReadAnswer.failHard_cons]
  | case3 taken bytes later more ih =>
      have handedOut : ReadAnswer.data bytes ≠ .data [] := fun empty =>
        more (ReadAnswer.data.inj empty)
      rw [ih, ReadAnswer.failHard_cons]
      simp [handedOut]
  | case4 taken later ih => simp [ReadAnswer.failHard_cons, ih]
  | case5 taken later => simp [ReadAnswer.failHard_cons]

/-- Programs that are too large and sources that fail are refused with their reasons, and a program that
is refused leaves `left` behind, a source `unread`. -/
def RefusesLoads {ε σ : Type} (refusal : LoadError → ε) (left unread : σ)
    (load : List UInt8 → Except ε Unit × σ) (loadFrom : ByteSource → Except ε Unit × σ) : Prop :=
  (∀ program : List UInt8, 3584 < program.length →
    load program = (.error (refusal (.tooLarge program.length)), left) ∧
      ∀ source : ByteSource, source.readToEnd = .ok program →
        loadFrom source = (.error (refusal (.tooLarge program.length)), left)) ∧
    ∀ source : ByteSource, ReadAnswer.FailHard source.answers →
      loadFrom source = (.error (refusal .unreadable), unread)

theorem refusesLoads_of_tooLarge {ε σ : Type} {refusal : LoadError → ε} {left unread : σ}
    {load : List UInt8 → Except ε Unit × σ} {loadFrom : ByteSource → Except ε Unit × σ}
    (load_tooLarge : ∀ program : List UInt8, programCapacity < program.length →
      load program = (.error (refusal (.tooLarge program.length)), left))
    (loadFrom_eq : ∀ source : ByteSource, loadFrom source =
      match source.readToEnd with
      | .error reason => (.error (refusal reason), unread)
      | .ok program => load program) : RefusesLoads refusal left unread load loadFrom := by
  constructor
  · intro program tooLarge
    refine ⟨load_tooLarge program tooLarge, ?_⟩
    intro source read
    rw [loadFrom_eq, read]
    exact load_tooLarge program tooLarge
  · intro source fails
    have unreadable : source.readToEnd = .error .unreadable :=
      (gather_eq_unreadable_iff [] source.answers).mpr fails
    rw [loadFrom_eq, unreadable]

theorem Memory.refusesLoads (memory : Memory) :
    RefusesLoads id memory memory memory.loadProgram memory.loadFrom :=
  refusesLoads_of_tooLarge (fun _ tooLarge => memory.loadProgram_of_tooLarge tooLarge) fun _ => rfl

theorem Machine.refusesLoads (machine : Machine) :
    RefusesLoads id machine machine machine.load machine.loadFrom :=
  refusesLoads_of_tooLarge (fun _ tooLarge => machine.load_of_tooLarge tooLarge) fun _ => rfl

theorem LoadError.message_tooLarge (size : Nat) :
    (LoadError.tooLarge size).message =
      s!"ROM is too large ({size} bytes), at most 3584 bytes fit" := by
  have limit : " bytes), at most " ++ (toString programCapacity ++ " bytes fit") =
      " bytes), at most 3584 bytes fit" := by decide
  change "ROM is too large (" ++ toString size ++ " bytes), at most " ++ toString programCapacity ++
    " bytes fit" = "ROM is too large (" ++ toString size ++ " bytes), at most 3584 bytes fit"
  rw [String.append_assoc, String.append_assoc, limit]

namespace Session

theorem refusesLoads (session : Session) {thread : SystemAnswer}
    (granted : session.phase = .running → thread = .ok ()) :
    RefusesLoads Refusal.load session.carriedOn session (fun program => session.load program thread)
      fun source => session.loadFrom source thread :=
  refusesLoads_of_tooLarge (fun _ tooLarge => session.load_of_tooLarge tooLarge granted) fun _ => rfl

/-! ### What is left -/

/-- The session with its ticker, if there is one, at the interval of the next one. -/
def repaced (session : Session) : Session :=
  { session with
    ticker := session.ticker.map fun ticker => { ticker with interval := session.interval } }

theorem Coherent.carriedOn_eq_repaced {settings : Settings} {session : Session}
    (coherent : session.Coherent settings) : session.carriedOn = session.repaced := by
  unfold Session.carriedOn repaced
  by_cases runs : session.phase = .running
  · obtain ⟨interval, beats⟩ := coherent.ticker_eq_some runs
    rw [if_pos runs, beats]
    rfl
  · rw [if_neg runs, coherent.ticker_eq_none runs]
    rfl

theorem repaced_repaced (session : Session) : session.repaced.repaced = session.repaced := by
  obtain ⟨machine, phase, interval, configuredInterval, clock, ticker, sound⟩ := session
  cases ticker <;> rfl

theorem repaced_eq_self {session : Session}
    (paced : ∀ ticker ∈ session.ticker, ticker.interval = session.interval) :
    session.repaced = session := by
  obtain ⟨machine, phase, interval, configuredInterval, clock, ticker, sound⟩ := session
  cases ticker with
  | none => rfl
  | some ticker =>
      obtain rfl : ticker.interval = interval := paced ticker rfl
      rfl

/-- The interval of the ticker decides when it beats, and nothing else. -/
theorem afterEvent_repaced (session : Session) (event : SessionEvent) :
    session.repaced.answer event = session.answer event ∧
      (session.repaced.afterEvent event).repaced = (session.afterEvent event).repaced := by
  obtain ⟨machine, phase, interval, configuredInterval, clock, ticker, sound⟩ := session
  cases ticker with
  | none => exact ⟨rfl, rfl⟩
  | some ticker =>
      cases event with
      | command command thread =>
          cases command with
          | load program => exact ⟨rfl, rfl⟩
          | loadFrom source =>
              unfold answer afterEvent obey loadFrom
              dsimp only
              cases source.readToEnd with
              | error reason => exact ⟨rfl, rfl⟩
              | ok program => exact ⟨rfl, rfl⟩
          | pause | resume | step | choosePace pace =>
              cases phase <;> cases thread <;> exact ⟨rfl, rfl⟩
          | setInterval interval | reset => exact ⟨rfl, rfl⟩
      | beat timersDue | key operation | screen operation | connect device => exact ⟨rfl, rfl⟩

theorem afterEvents_of_repaced_eq {first second : Session} (same : first.repaced = second.repaced)
    (events : List SessionEvent) :
    first.answers events = second.answers events ∧
      (first.afterEvents events).repaced = (second.afterEvents events).repaced := by
  induction events generalizing first second with
  | nil => exact ⟨rfl, same⟩
  | cons event rest ih =>
      obtain ⟨firstAnswer, firstNext⟩ := first.afterEvent_repaced event
      obtain ⟨secondAnswer, secondNext⟩ := second.afterEvent_repaced event
      rw [same] at firstAnswer firstNext
      obtain ⟨sameLater, after⟩ := ih (firstNext.symm.trans secondNext)
      refine ⟨?_, after⟩
      rw [answers, answers, sameLater, ← firstAnswer, secondAnswer]

theorem eq_carriedOn_of_refused_load {session next : Session} {program : List UInt8}
    {thread : SystemAnswer} {refusal : Refusal} (own : ∀ problem, refusal ≠ .system problem)
    (refused : session.load program thread = (.error refusal, next)) :
    next = session.carriedOn := by
  have outcome := session.load_reply program thread
  rw [refused] at outcome
  cases outcome with
  | refused tooLarge granted => rfl
  | threadless fits problem => exact absurd rfl (own problem)
  | halted tooLarge runs problem => exact absurd rfl (own problem)

theorem inPhase_eq_of_refused {session next : Session} {action : PhaseAction}
    {change : Session → Reply} {refusal : Refusal}
    (changes : ∀ problem, (change session).1 = .error problem → problem ≠ refusal)
    (refused : session.inPhase action change = (.error refusal, next)) : next = session := by
  by_cases allowed : session.phase = action.requires
  · rw [inPhase_of_eq allowed] at refused
    exact absurd rfl (changes refusal (congrArg Prod.fst refused))
  · rw [inPhase_of_ne allowed] at refused
    exact (Prod.mk.inj refused).2.symm

theorem Coherent.repaced_of_refused {settings : Settings} {session next : Session}
    (coherent : session.Coherent settings) {command : Command} {thread : SystemAnswer}
    {refusal : Refusal} (own : ∀ problem, refusal ≠ .system problem)
    (refused : session.obey thread command = (.error refusal, next)) :
    next.repaced = session.repaced := by
  have loads : ∀ program, session.load program thread = (.error refusal, next) →
      next.repaced = session.repaced := by
    intro program turnedDown
    rw [eq_carriedOn_of_refused_load own turnedDown, coherent.carriedOn_eq_repaced,
      repaced_repaced]
  cases command with
  | load program => exact loads program refused
  | loadFrom source =>
      change session.loadFrom source thread = _ at refused
      rcases session.loadFrom_cases source thread with ⟨reason, _, unread⟩ | ⟨program, _, same⟩
      · rw [unread] at refused
        rw [(Prod.mk.inj refused).2]
      · rw [same] at refused
        exact loads program refused
  | pause =>
      rw [Session.obey, Session.pause] at refused
      exact congrArg repaced (inPhase_eq_of_refused (fun _ failed => by cases failed) refused)
  | resume =>
      rw [Session.obey, Session.resume] at refused
      refine congrArg repaced (inPhase_eq_of_refused ?_ refused)
      intro other failed
      cases thread with
      | ok answer => cases failed
      | error problem =>
          obtain rfl : .system problem = other := Except.error.inj failed
          exact (own problem).symm
  | step =>
      rw [Session.obey, Session.step] at refused
      exact congrArg repaced (inPhase_eq_of_refused (fun _ failed => by cases failed) refused)
  | choosePace pace =>
      change session.choosePace pace thread = _ at refused
      by_cases granted : session.phase = .running → thread = .ok ()
      · rw [choosePace_eq session pace granted] at refused
        cases refused
      · obtain ⟨runs, unthreaded⟩ := Classical.not_imp.mp granted
        cases thread with
        | ok answer => exact absurd rfl unthreaded
        | error problem =>
            rw [choosePace_of_error session pace runs] at refused
            exact absurd (Except.error.inj (Prod.mk.inj refused).1).symm (own problem)
  | setInterval interval | reset => cases refused

/-- Programs that are too large and sources that fail are refused with their reasons, by a session in any
phase, by a machine and by a memory. A machine and a memory that refuse are as before. So is a session,
except that a refused program makes a running one start its ticker again, at the interval last chosen,
which is another ticker only if the interval had been changed since; whatever command it has refused, it
answers and does later what it would have done without that command. If the system refuses the thread
for that ticker, the session has none, and that is the answer. -/
theorem refused_load_changes_nothing (settings : Settings) (drawnSeed : UInt64)
    (sound : SoundDevice) {events : List SessionEvent}
    (granted : ∀ event ∈ events, event.Granted) :
    let session := (start settings drawnSeed sound).afterEvents events
    let restarted : Session :=
      { session with
        ticker := if session.phase = .running then some ⟨session.interval, session.clock⟩ else none }
    (∀ thread, (session.phase = .running → thread = .ok ()) →
      RefusesLoads Refusal.load restarted session (fun program => session.load program thread)
        fun source => session.loadFrom source thread) ∧
      ((∀ ticker ∈ session.ticker, ticker.interval = session.interval) → restarted = session) ∧
      (∀ size, (LoadError.tooLarge size).message =
        s!"ROM is too large ({size} bytes), at most 3584 bytes fit") ∧
      (∀ command thread refusal, (∀ problem, refusal ≠ .system problem) →
        (session.obey thread command).1 = .error refusal →
          let next := (session.obey thread command).2
          next.machine = session.machine ∧ next.phase = session.phase ∧
            next.interval = session.interval ∧ next.clock = session.clock ∧
            next.sound = session.sound ∧
            (next.ticker.isSome = true ↔ session.phase = .running) ∧
            ∀ later, next.answers later = session.answers later ∧
              (next.afterEvents later).repaced = (session.afterEvents later).repaced) ∧
      (∀ program problem, 3584 < program.length → session.phase = .running →
        session.load program (.error problem) =
          (.error (.system problem), { session with ticker := none })) ∧
      (∀ machine : Machine, RefusesLoads id machine machine machine.load machine.loadFrom) ∧
      ∀ memory : Memory, RefusesLoads id memory memory memory.loadProgram memory.loadFrom := by
  intro session restarted
  have coherent : session.Coherent settings := reachable_coherent settings drawnSeed sound granted
  refine ⟨fun thread threaded => session.refusesLoads threaded, ?_, LoadError.message_tooLarge, ?_, ?_,
    Machine.refusesLoads, Memory.refusesLoads⟩
  · intro paced
    exact coherent.carriedOn_eq_repaced.trans (repaced_eq_self paced)
  · intro command thread refusal own refused next
    have same : next.repaced = session.repaced :=
      coherent.repaced_of_refused own (Prod.ext refused rfl)
    obtain ⟨machine, phase, interval, _, clock, ticker, sound⟩ := Session.mk.inj same
    have beats : next.ticker.isSome = session.ticker.isSome := by
      have mapped := congrArg Option.isSome ticker
      rw [Option.isSome_map, Option.isSome_map] at mapped
      exact mapped
    refine ⟨machine, phase, interval, clock, sound, ?_, afterEvents_of_repaced_eq same⟩
    rw [beats]
    exact coherent.ticker_iff
  · intro program problem tooLarge runs
    exact session.load_of_tooLarge_of_error tooLarge runs problem

/-- A counting program runs on, at the pace chosen last, when a program of one byte too many and a file
that breaks off are to take its place. -/
theorem counter_survives_refused_loads :
    let settings : Settings := { seed := some 1 }
    let events : List SessionEvent :=
      [.command (.load [0x70, 0x01, 0x12, 0x00]) (.ok ()), .beat 1,
        .command (.setInterval Pace.fast.interval) (.ok ())]
    let session := (start settings 0 .mute).afterEvents events
    let program := List.replicate 3585 (0x12 : UInt8)
    let source : ByteSource := ⟨[0x12, 0x00], 1, fun _ => 1, some 1⟩
    let problem : SystemProblem := ⟨"Resource temporarily unavailable", 11⟩
    (∀ event ∈ events, event.Granted) ∧ session.phase = .running ∧
      session.load program (.ok ()) =
        (.error (.load (.tooLarge 3585)),
          { session with ticker := some ⟨Pace.fast.interval, session.clock⟩ }) ∧
      (session.load program (.ok ())).2.answers [.beat 2, .command .step (.ok ())] =
        session.answers [.beat 2, .command .step (.ok ())] ∧
      session.load program (.error problem) =
        (.error (.system problem), { session with ticker := none }) ∧
      session.loadFrom source (.ok ()) = (.error (.load .unreadable), session) ∧
      session.machine.load program = (.error (.tooLarge 3585), session.machine) ∧
      Memory.initial.loadFrom source = (.error .unreadable, Memory.initial) := by
  intro settings events session program source problem
  have granted : ∀ event ∈ events, event.Granted := by decide
  obtain ⟨refuses, _, _, kept, unthreaded, machines, memories⟩ :=
    refused_load_changes_nothing settings 0 .mute granted
  have length : program.length = 3585 := List.length_replicate
  clear_value program
  have tooLarge : 3584 < program.length := by
    rw [length]
    decide
  have runs : session.phase = .running := by decide +kernel
  have paced : session.interval = Pace.fast.interval := by decide +kernel
  have fails : ReadAnswer.FailHard source.answers :=
    ⟨[.interrupted, .data [0x12], .interrupted], [], by decide +kernel, by decide⟩
  obtain ⟨loads, reads⟩ := refuses (.ok ()) fun _ => rfl
  have loadRefused : session.load program (.ok ()) = (.error (.load (.tooLarge program.length)), _) :=
    (loads program tooLarge).1
  obtain ⟨_, _, _, _, _, _, later⟩ := kept (.load program) (.ok ())
    (.load (.tooLarge program.length)) nofun (congrArg Prod.fst loadRefused)
  have machineRefused := ((machines session.machine).1 program tooLarge).1
  rw [length] at machineRefused
  refine ⟨granted, runs, ?_, (later _).1, unthreaded program problem tooLarge runs,
    reads source fails, machineRefused, (memories Memory.initial).2 source fails⟩
  rw [loadRefused, length, if_pos runs, paced]

end Session

end Chip8
