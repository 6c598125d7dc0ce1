import Chip8.Fault
/-!
The sixteen keys, each either down or up.
-/

namespace Chip8

structure Keypad where
  down : Vector Bool 16
  deriving DecidableEq, Repr

namespace Keypad

def released : Keypad := ⟨Vector.replicate 16 false⟩

instance : Inhabited Keypad := ⟨released⟩

/-- A key outside the sixteen is never down. -/
def isDown (keypad : Keypad) (key : Nat) : Bool :=
  (keypad.down[key]?).getD false

def setKey (keypad : Keypad) (key : Nat) (down : Bool) : Except Fault Unit × Keypad :=
  if key < 16 then (.ok (), ⟨keypad.down.setIfInBounds key down⟩)
  else (.error (.invalidIndex .key key), keypad)

theorem setKey_eq (keypad : Keypad) {key : Nat} (inside : key < 16) (down : Bool) :
    keypad.setKey key down = (.ok (), ⟨keypad.down.setIfInBounds key down⟩) :=
  if_pos inside

theorem isDown_setIfInBounds (keypad : Keypad) {key : Nat} (inside : key < 16) (down : Bool)
    (other : Nat) :
    isDown ⟨keypad.down.setIfInBounds key down⟩ other =
      if other = key then down else keypad.isDown other := by
  by_cases same : other = key
  · subst other
    simp [isDown, inside]
  · have different : key ≠ other := fun equal => same equal.symm
    simp [isDown, same, different]

def press (keypad : Keypad) (key : Nat) : Except Fault Unit × Keypad :=
  keypad.setKey key true

def release (keypad : Keypad) (key : Nat) : Except Fault Unit × Keypad :=
  keypad.setKey key false

def firstDown (keypad : Keypad) (limit : Nat) : Option Nat :=
  (List.range (min limit 16)).find? keypad.isDown

end Keypad

end Chip8
