import Chip8.Keypad
import Chip8.Log
/-!
Typing on the host. The left of the keyboard stands for the keypad; a few other keys ask something
of the session. A host tells when a key goes down and never when it comes up, so a key counts as
held for a fixed time after it was last typed.
-/

namespace Chip8

inductive HostEvent where
  | character (typed : Char)
  | functionKey (number : Nat)
  | escape
  | other
  deriving DecidableEq, Repr

inductive Request where
  | quit
  | togglePause
  | setPace (pace : Pace)
  deriving DecidableEq, Repr

def keyCharacters : List Char :=
  ['x', '1', '2', '3', 'q', 'w', 'e', 'a', 's', 'd', 'z', 'c', '4', 'r', 'f', 'v']

/-- The key that a character stands for, in lower or upper case. -/
def keyFor? (typed : Char) : Option Nat :=
  keyCharacters.findIdx? (· == typed.toLower)

def HostEvent.request? : HostEvent → Option Request
  | .escape => some .quit
  | .character 'p' => some .togglePause
  | .functionKey 5 => some (.setPace .slow)
  | .functionKey 6 => some (.setPace .normal)
  | .functionKey 7 => some (.setPace .fast)
  | _ => none

def HostEvent.key? (event : HostEvent) : Option Nat :=
  match event.request?, event with
  | none, .character typed => keyFor? typed
  | _, _ => none

def holdTime : Duration := .ofMilliseconds 150

/-- When each key that counts as held was last typed, as time since a fixed instant. -/
structure HeldKeys where
  since : Vector (Option Duration) 16
  deriving DecidableEq, Repr

namespace HeldKeys

def empty : HeldKeys := ⟨Vector.replicate 16 none⟩

def lastTyped (held : HeldKeys) (key : Nat) : Option Duration :=
  (held.since[key]?).join

def record (held : HeldKeys) (key : Nat) (time : Option Duration) : HeldKeys :=
  ⟨held.since.setIfInBounds key time⟩

/-- The key has been held for the whole hold time. A time before the key was typed counts as no time
at all. -/
def hasExpired (held : HeldKeys) (now : Duration) (key : Nat) : Bool :=
  match held.lastTyped key with
  | none => false
  | some since => decide (holdTime.nanoseconds ≤ now.nanoseconds - since.nanoseconds)

end HeldKeys

structure Typing where
  held : HeldKeys
  keypad : Keypad
  deriving DecidableEq, Repr

namespace Typing

def start : Typing :=
  { held := HeldKeys.empty
    keypad := Keypad.released }

def setKey (typing : Typing) (key : Nat) (down : Bool) (time : Option Duration) : Typing :=
  { held := typing.held.record key time
    keypad := (typing.keypad.setKey key down).2 }

def handle (typing : Typing) (event : HostEvent) (now : Duration) : Option Request × Typing :=
  match event.key? with
  | some key => (none, typing.setKey key true (some now))
  | none => (event.request?, typing)

def releaseExpired (typing : Typing) (now : Duration) : Typing :=
  ((List.range 16).filter (typing.held.hasExpired now)).foldl
    (fun left key => left.setKey key false none) typing

def handleLog (event : HostEvent) : List LogEntry :=
  match event.request?, event with
  | none, .character typed => if keyFor? typed = none then [.unmapped typed] else []
  | _, _ => []

end Typing

end Chip8
