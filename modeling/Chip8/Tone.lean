/-!
The signals that the sound timer gives, and the devices that hear them.
-/

namespace Chip8

inductive Tone where
  /-- The timer has been set while it stood at zero. -/
  | start
  /-- The timer has run down. -/
  | stop
  deriving DecidableEq, Repr

inductive SoundDevice where
  | mute
  | recorder (heard : List Tone)
  deriving DecidableEq, Repr

namespace SoundDevice

def signal (device : SoundDevice) (tone : Tone) : SoundDevice :=
  match device with
  | .mute => .mute
  | .recorder heard => .recorder (heard ++ [tone])

def signal? (device : SoundDevice) : Option Tone → SoundDevice
  | none => device
  | some tone => device.signal tone

def heard : SoundDevice → List Tone
  | .mute => []
  | .recorder heard => heard

end SoundDevice

end Chip8
