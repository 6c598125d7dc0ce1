import Chip8.Proofs.RejectedLoad
/-!
Loads from a source against loads of its bytes. Whatever sizes the pieces have and wherever a read is
interrupted, a source that is read to its end loads what its bytes load, and one that fails loads nothing,
however much it has handed out by then.
-/

namespace Chip8

/-! ### Reading to the end -/

/-- The reads hand out these bytes, in pieces of at most `most`, with any interruptions before and between
them, and then give the last answer. -/
inductive HandsOut (most : Nat) (last : ReadAnswer) : List UInt8 → List ReadAnswer → Prop where
  | last (later : List ReadAnswer) : HandsOut most last [] (last :: later)
  | interrupted {bytes : List UInt8} {answers : List ReadAnswer}
      (behind : HandsOut most last bytes answers) : HandsOut most last bytes (.interrupted :: answers)
  | piece {piece bytes : List UInt8} {answers : List ReadAnswer} (nonempty : piece ≠ [])
      (bounded : piece.length ≤ most) (behind : HandsOut most last bytes answers) :
      HandsOut most last (piece ++ bytes) (.data piece :: answers)

namespace HandsOut

variable {most : Nat} {last : ReadAnswer} {bytes : List UInt8} {answers : List ReadAnswer}

theorem gather_eq (ends : HandsOut most (.data []) bytes answers) (taken : List (List UInt8)) :
    gather taken answers = .ok (taken.reverse.flatten ++ bytes) := by
  induction ends generalizing taken with
  | last later => rw [gather, List.append_nil]
  | interrupted behind ih => exact ih taken
  | @piece piece bytes answers nonempty bounded behind ih =>
      have taking : gather taken (.data piece :: answers) = gather (piece :: taken) answers := by
        cases piece with
        | nil => exact absurd rfl nonempty
        | cons byte rest => rfl
      rw [taking, ih, List.reverse_cons, List.flatten_append, List.flatten_singleton,
        List.append_assoc]

theorem failHard (fails : HandsOut most .failed bytes answers) : ReadAnswer.FailHard answers := by
  induction fails with
  | last later => exact (ReadAnswer.failHard_cons _ later).mpr (.inl rfl)
  | interrupted behind ih =>
      exact (ReadAnswer.failHard_cons _ _).mpr (.inr ⟨ReadAnswer.noConfusion, ih⟩)
  | piece nonempty bounded behind ih =>
      have handedOut := fun empty => nonempty (ReadAnswer.data.inj empty)
      exact (ReadAnswer.failHard_cons _ _).mpr (.inr ⟨handedOut, ih⟩)

theorem interruptions (behind : HandsOut most last bytes answers) (count : Nat) :
    HandsOut most last bytes (List.replicate count .interrupted ++ answers) := by
  induction count with
  | zero => exact behind
  | succ count ih =>
      rw [List.replicate_succ, List.cons_append]
      exact ih.interrupted

theorem pieces {cut : List (List UInt8)} (bounded : ∀ piece ∈ cut, piece ≠ [] ∧ piece.length ≤ most)
    (interruptions : Nat → Nat) (first : Nat) :
    HandsOut most last cut.flatten
      (((cut.map ReadAnswer.data ++ [last]).zipIdx first).flatMap fun numbered =>
        List.replicate (interruptions numbered.2) .interrupted ++ [numbered.1]) := by
  induction cut generalizing first with
  | nil =>
      rw [List.map_nil, List.nil_append, List.zipIdx_singleton, List.flatMap_singleton]
      exact (HandsOut.last []).interruptions _
  | cons piece rest ih =>
      obtain ⟨⟨nonempty, short⟩, boundedLater⟩ := List.forall_mem_cons.mp bounded
      rw [List.map_cons, List.cons_append, List.zipIdx_cons, List.flatMap_cons, List.flatten_cons,
        List.append_assoc]
      exact (HandsOut.piece nonempty short (ih boundedLater (first + 1))).interruptions _

end HandsOut

/-! ### Byte sources -/

theorem mem_cutPieces {chunk : Nat} {handed : List (List UInt8)} {bytes piece : List UInt8}
    (cut : piece ∈ cutPieces chunk handed bytes) :
    piece ∈ handed ∨ piece ≠ [] ∧ piece.length ≤ chunk := by
  fun_induction cutPieces chunk handed bytes with
  | case1 handed bytes stops => exact .inl (List.mem_reverse.mp cut)
  | case2 handed bytes proceeds ih =>
      obtain ⟨positive, more⟩ := not_or.mp proceeds
      rcases ih cut with listed | fresh
      · rcases List.mem_cons.mp listed with rfl | before
        · refine .inr ⟨?_, List.length_take_le chunk bytes⟩
          intro empty
          rcases List.take_eq_nil_iff.mp empty with none | done
          · exact positive none
          · exact more done
        · exact .inl before
      · exact .inr fresh

namespace ByteSource

def Fails (source : ByteSource) : Prop :=
  ∃ place, source.failAfter = some place ∧ place ≤ source.bytes.length

variable {source : ByteSource}

theorem handsOut :
    HandsOut source.chunk source.lastAnswer source.pieces.flatten source.answers := by
  refine HandsOut.pieces ?_ source.interruptions 0
  intro piece cut
  rcases mem_cutPieces cut with impossible | bounded
  · cases impossible
  · exact bounded

theorem flatten_pieces (positive : source.chunk ≠ 0) :
    source.pieces.flatten = source.bytes.take (source.failAfter.getD source.bytes.length) :=
  flatten_cutPieces positive [] _

theorem handsOut_of_fails (positive : source.chunk ≠ 0) {place : Nat}
    (due : source.failAfter = some place) (reached : place ≤ source.bytes.length) :
    HandsOut source.chunk .failed (source.bytes.take place) source.answers := by
  have handed : source.pieces.flatten = source.bytes.take place := by
    rw [flatten_pieces positive, due, Option.getD_some]
  have last : source.lastAnswer = .failed := by
    rw [lastAnswer, handed, List.length_take_of_le reached, if_pos due]
  have hands := source.handsOut
  rwa [last, handed] at hands

theorem handsOut_of_not_fails (positive : source.chunk ≠ 0) (sound : ¬source.Fails) :
    HandsOut source.chunk (.data []) source.bytes source.answers := by
  have handed : source.pieces.flatten = source.bytes := by
    rw [flatten_pieces positive]
    cases due : source.failAfter with
    | none => exact List.take_length
    | some place =>
        have beyond : source.bytes.length ≤ place := by
          by_contra reached
          exact sound ⟨place, due, Nat.le_of_not_le reached⟩
        exact List.take_of_length_le beyond
  have last : source.lastAnswer = .data [] := by
    rw [lastAnswer, handed]
    exact if_neg fun due => sound ⟨_, due, Nat.le_refl _⟩
  have hands := source.handsOut
  rwa [last, handed] at hands

end ByteSource

/-! ### Loads -/

def Memory.loadRead (memory : Memory) (answers : List ReadAnswer) :
    Except LoadError Unit × Memory :=
  match gather [] answers with
  | .error reason => (.error reason, memory)
  | .ok program => memory.loadProgram program

def Machine.loadRead (machine : Machine) (answers : List ReadAnswer) :
    Except LoadError Unit × Machine :=
  match gather [] answers with
  | .error reason => (.error reason, machine)
  | .ok program => machine.load program

def Session.loadRead (session : Session) (thread : SystemAnswer) (answers : List ReadAnswer) :
    Session.Reply :=
  match gather [] answers with
  | .error reason => (.error (.load reason), session)
  | .ok program => session.load program thread

/-- Reads up to the end load the bytes that they hand out, and reads that fail give `unread`. A byte source
makes such reads. -/
def LoadsWhatIsRead {α : Type} (load : List UInt8 → α) (loadRead : List ReadAnswer → α)
    (loadFrom : ByteSource → α) (unread : α) : Prop :=
  (∀ most bytes answers, HandsOut most (.data []) bytes answers → loadRead answers = load bytes) ∧
    (∀ most bytes answers, HandsOut most .failed bytes answers → loadRead answers = unread) ∧
    ∀ source : ByteSource, source.chunk ≠ 0 →
      (¬source.Fails → loadFrom source = load source.bytes) ∧
        (source.Fails → loadFrom source = unread)

theorem loadsWhatIsRead_of_gather {α : Type} {load : List UInt8 → α}
    {loadRead : List ReadAnswer → α} {loadFrom : ByteSource → α} {unread : α}
    (read : ∀ answers bytes, gather [] answers = .ok bytes → loadRead answers = load bytes)
    (failed : ∀ answers, gather [] answers = .error .unreadable → loadRead answers = unread)
    (loadFrom_eq : ∀ source, loadFrom source = loadRead source.answers) :
    LoadsWhatIsRead load loadRead loadFrom unread := by
  have whole : ∀ most bytes answers, HandsOut most (.data []) bytes answers →
      loadRead answers = load bytes := by
    intro most bytes answers ends
    exact read answers bytes (ends.gather_eq [])
  have broken : ∀ most bytes answers, HandsOut most .failed bytes answers →
      loadRead answers = unread := by
    intro most bytes answers fails
    exact failed answers ((gather_eq_unreadable_iff [] answers).mpr fails.failHard)
  refine ⟨whole, broken, ?_⟩
  intro source positive
  rw [loadFrom_eq]
  constructor
  · intro sound
    exact whole _ _ _ (source.handsOut_of_not_fails positive sound)
  · rintro ⟨place, due, reached⟩
    exact broken _ _ _ (source.handsOut_of_fails positive due reached)

theorem Memory.loadsWhatIsRead (memory : Memory) :
    LoadsWhatIsRead memory.loadProgram memory.loadRead memory.loadFrom
      (.error .unreadable, memory) := by
  refine loadsWhatIsRead_of_gather ?_ ?_ fun source => rfl
  · intro answers bytes gathered
    rw [loadRead, gathered]
  · intro answers failed
    rw [loadRead, failed]

theorem Machine.loadsWhatIsRead (machine : Machine) :
    LoadsWhatIsRead machine.load machine.loadRead machine.loadFrom
      (.error .unreadable, machine) := by
  refine loadsWhatIsRead_of_gather ?_ ?_ fun source => rfl
  · intro answers bytes gathered
    rw [loadRead, gathered]
  · intro answers failed
    rw [loadRead, failed]

namespace Session

theorem loadsWhatIsRead (session : Session) (thread : SystemAnswer) :
    LoadsWhatIsRead (fun program => session.load program thread) (session.loadRead thread)
      (fun source => session.loadFrom source thread) (.error (.load .unreadable), session) := by
  refine loadsWhatIsRead_of_gather ?_ ?_ fun source => rfl
  · intro answers bytes gathered
    rw [loadRead, gathered]
  · intro answers failed
    rw [loadRead, failed]

/-- A session, a machine and a memory load from reads, however these are cut and interrupted, what they load
from the bytes handed out, with the same answer and the same state behind it, and a session does so
whatever the system answers to the thread for its ticker. Bytes that do not fit are refused with their
full number. Where the reads fail, that is the answer, and everything is as before, also behind the last
byte and behind more bytes than fit. -/
theorem reads_load_their_bytes (session : Session) (machine : Machine) (memory : Memory) :
    (∀ thread, LoadsWhatIsRead (fun program => session.load program thread)
        (session.loadRead thread) (fun source => session.loadFrom source thread)
        (.error (.load .unreadable), session)) ∧
      LoadsWhatIsRead machine.load machine.loadRead machine.loadFrom
        (.error .unreadable, machine) ∧
      LoadsWhatIsRead memory.loadProgram memory.loadRead memory.loadFrom
        (.error .unreadable, memory) ∧
      (∀ source : ByteSource, source.chunk ≠ 0 →
        (¬source.Fails → machine.afterOperation (.loadFrom source) =
          machine.afterOperation (.load source.bytes)) ∧
        (source.Fails → machine.afterOperation (.loadFrom source) = machine)) ∧
      ∀ bytes : List UInt8, 3584 < bytes.length →
        (∀ thread, (session.phase = .running → thread = .ok ()) →
          (session.load bytes thread).1 = .error (.load (.tooLarge bytes.length))) ∧
          machine.load bytes = (.error (.tooLarge bytes.length), machine) ∧
          memory.loadProgram bytes = (.error (.tooLarge bytes.length), memory) := by
  refine ⟨session.loadsWhatIsRead, machine.loadsWhatIsRead, memory.loadsWhatIsRead, ?_, ?_⟩
  · intro source positive
    obtain ⟨whole, broken⟩ := machine.loadsWhatIsRead.2.2 source positive
    constructor
    · intro sound
      exact congrArg Prod.snd (whole sound)
    · intro fails
      exact congrArg Prod.snd (broken fails)
  · intro bytes tooLarge
    refine ⟨?_, machine.load_of_tooLarge tooLarge, memory.loadProgram_of_tooLarge tooLarge⟩
    intro thread granted
    exact congrArg Prod.fst (session.load_of_tooLarge tooLarge granted)

/-- A program of two instructions that comes in uneven pieces, and a file of one byte too many that breaks
off behind its last byte or not at all. -/
theorem uneven_pieces_load_alike :
    let session := start { seed := some 1 } 0 .mute
    let program : List UInt8 := [0x60, 0x05, 0x12, 0x02]
    let answers : List ReadAnswer :=
      [.interrupted, .data [0x60], .data [0x05, 0x12], .interrupted, .interrupted, .data [0x02],
        .data []]
    let bytes := List.replicate 3585 (0x12 : UInt8)
    let readable : ByteSource := ⟨bytes, 64, fun number => number % 3, some 3586⟩
    let breaking : ByteSource := ⟨bytes, 64, fun number => number % 3, some 3585⟩
    session.loadRead (.ok ()) answers = session.load program (.ok ()) ∧
      (session.loadFrom readable (.ok ())).1 = .error (.load (.tooLarge 3585)) ∧
      session.loadFrom breaking (.ok ()) = (.error (.load .unreadable), session) ∧
      session.machine.afterOperation (.loadFrom breaking) = session.machine ∧
      Memory.initial.loadFrom readable = (.error (.tooLarge 3585), Memory.initial) := by
  intro session program answers bytes readable breaking
  obtain ⟨sessions, _, ⟨_, _, memories⟩, machines, tooLarge⟩ :=
    reads_load_their_bytes session session.machine Memory.initial
  obtain ⟨whole, _, sources⟩ := sessions (.ok ())
  have handsOut : HandsOut 2 (.data []) program answers := by
    have ending : HandsOut 2 (.data []) [] [.data []] := .last []
    have third : HandsOut 2 (.data []) [0x02] [.data [0x02], .data []] :=
      ending.piece (List.cons_ne_nil 0x02 []) (by decide)
    have second : HandsOut 2 (.data []) [0x05, 0x12, 0x02] (answers.drop 2) :=
      third.interrupted.interrupted.piece (List.cons_ne_nil 0x05 [0x12]) (by decide)
    have first : HandsOut 2 (.data []) program (answers.drop 1) :=
      second.piece (List.cons_ne_nil 0x60 []) (by decide)
    exact first.interrupted
  have length : bytes.length = 3585 := List.length_replicate
  have sound : ¬readable.Fails := by
    rintro ⟨place, due, reached⟩
    have last : place = 3586 := (Option.some.inj due).symm
    have bound : place ≤ bytes.length := reached
    omega
  have fails : breaking.Fails := ⟨3585, rfl, Nat.le_of_eq length.symm⟩
  obtain ⟨full, _, memoryFull⟩ := tooLarge bytes (by omega)
  have sessionFull := full (.ok ()) fun _ => rfl
  rw [length] at sessionFull memoryFull
  refine ⟨whole 2 program answers handsOut, ?_, (sources breaking (by decide)).2 fails,
    (machines breaking (by decide)).2 fails, ?_⟩
  · exact (congrArg Prod.fst ((sources readable (by decide)).1 sound)).trans sessionFull
  · rw [(memories readable (by decide)).1 sound]
    exact memoryFull

end Session

end Chip8
