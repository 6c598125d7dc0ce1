import Chip8.Memory.Program
/-!
Byte sources that hand out a program piece by piece. A read may be interrupted, which means that
it is to be made again; it may fail for good; and an answer without bytes marks the end. A program
is taken from a source only when the whole of it has been read.
-/

namespace Chip8

inductive ReadAnswer where
  | data (bytes : List UInt8)
  | interrupted
  | failed
  deriving DecidableEq, Repr

/-- Collects the answers to come behind the pieces already taken, which stand newest first. Reading
stops at the first empty or failed answer; answers that run out are an end as well. -/
def gather (taken : List (List UInt8)) : List ReadAnswer → Except LoadError (List UInt8)
  | [] => .ok taken.reverse.flatten
  | .data [] :: _ => .ok taken.reverse.flatten
  | .data bytes :: later => gather (bytes :: taken) later
  | .interrupted :: later => gather taken later
  | .failed :: _ => .error .unreadable

/-- Cuts bytes into pieces of at most `chunk`, behind the pieces already handed out, which stand
newest first. With a chunk of zero nothing more is handed out. -/
def cutPieces (chunk : Nat) (handed : List (List UInt8)) (bytes : List UInt8) :
    List (List UInt8) :=
  if chunk = 0 ∨ bytes = [] then handed.reverse
  else cutPieces chunk (bytes.take chunk :: handed) (bytes.drop chunk)
termination_by bytes.length
decreasing_by
  rename_i proceeds
  have nonempty := List.length_pos_iff.mpr (not_or.mp proceeds).2
  have positive := Nat.pos_of_ne_zero (not_or.mp proceeds).1
  simp only [List.length_drop]
  omega

theorem flatten_cutPieces {chunk : Nat} (positive : chunk ≠ 0) (handed : List (List UInt8))
    (bytes : List UInt8) :
    (cutPieces chunk handed bytes).flatten = handed.reverse.flatten ++ bytes := by
  fun_induction cutPieces chunk handed bytes with
  | case1 handed bytes stops =>
      have empty : bytes = [] := stops.resolve_left positive
      rw [empty, List.append_nil]
  | case2 handed bytes proceeds ih =>
      rw [ih, List.reverse_cons, List.flatten_append, List.append_assoc]
      congr 1
      rw [List.flatten_singleton, List.take_append_drop]

structure ByteSource where
  bytes : List UInt8
  chunk : Nat
  interruptions : Nat → Nat
  /-- Once this many bytes are out, the next read fails. -/
  failAfter : Option Nat

namespace ByteSource

def pieces (source : ByteSource) : List (List UInt8) :=
  cutPieces source.chunk [] (source.bytes.take (source.failAfter.getD source.bytes.length))

/-- The answer after all pieces: a failure if it is due by then, and the end otherwise. -/
def lastAnswer (source : ByteSource) : ReadAnswer :=
  if source.failAfter = some source.pieces.flatten.length then .failed else .data []

def answers (source : ByteSource) : List ReadAnswer :=
  (source.pieces.map ReadAnswer.data ++ [source.lastAnswer]).zipIdx.flatMap fun numbered =>
    List.replicate (source.interruptions numbered.2) .interrupted ++ [numbered.1]

def readToEnd (source : ByteSource) : Except LoadError (List UInt8) :=
  gather [] source.answers

end ByteSource

namespace Memory

/-- The size of the program is judged only after its source has been read to the end. -/
def loadFrom (memory : Memory) (source : ByteSource) : Except LoadError Unit × Memory :=
  match source.readToEnd with
  | .error reason => (.error reason, memory)
  | .ok program => memory.loadProgram program

end Memory

end Chip8
