/-!
What the operating system may refuse: a file that cannot be read, a thread that cannot be started, a
terminal that takes nothing.
-/

namespace Chip8

structure SystemProblem where
  reason : String
  code : Nat
  deriving DecidableEq, Repr

namespace SystemProblem

def notFound : SystemProblem := ⟨"No such file or directory", 2⟩

def permissionDenied : SystemProblem := ⟨"Permission denied", 13⟩

def notADirectory : SystemProblem := ⟨"Not a directory", 20⟩

def isADirectory : SystemProblem := ⟨"Is a directory", 21⟩

def nameTooLong : SystemProblem := ⟨"File name too long", 36⟩

def text (problem : SystemProblem) : String :=
  s!"{problem.reason} (os error {problem.code})"

end SystemProblem

/-- What comes of asking the system for something that has no value of its own. -/
abbrev SystemAnswer : Type := Except SystemProblem Unit

instance (answer : SystemAnswer) : Decidable (answer = .ok ()) :=
  match answer with
  | .ok () => .isTrue rfl
  | .error _ => .isFalse nofun

end Chip8
