import Chip8.Display.Terminal
import Chip8.HostInput
import Chip8.Launch
/-!
The session as a user meets it: what is typed goes to the keypad or to the session, and frame by
frame the screen goes to the terminal.
-/

namespace Chip8

/-- Reads what a terminal sends: plain characters, the escape key, and the function keys 5 to 7 as
the sequences that terminals send for them. -/
def HostEvent.ofBytes : List UInt8 → List HostEvent
  | 0x1b :: 0x5b :: 0x31 :: 0x35 :: 0x7e :: later => .functionKey 5 :: ofBytes later
  | 0x1b :: 0x5b :: 0x31 :: 0x37 :: 0x7e :: later => .functionKey 6 :: ofBytes later
  | 0x1b :: 0x5b :: 0x31 :: 0x38 :: 0x7e :: later => .functionKey 7 :: ofBytes later
  | 0x1b :: 0x5b :: _ => [.other]
  | 0x1b :: later => .escape :: ofBytes later
  | byte :: later => .character (Char.ofNat byte.toNat) :: ofBytes later
  | [] => []

inductive Ending where
  | quit
  | failed (problem : String) (causes : List String)
  deriving DecidableEq, Repr

def Exit.ofEnding : Ending → Exit
  | .quit => ⟨0, "", ""⟩
  | .failed problem causes => .failure problem causes

structure Console (toolkit : Toolkit) where
  session : Session
  held : HeldKeys
  terminal : Terminal toolkit (screenWidth + 2) (screenHeight + 2)
  ending : Option Ending

namespace Console

variable {toolkit : Toolkit}

def withTerminal (console : Console toolkit)
    (drawn : SystemAnswer × Terminal toolkit (screenWidth + 2) (screenHeight + 2)) :
    Console toolkit :=
  match drawn with
  | (.ok (), terminal) => { console with terminal := terminal }
  | (.error problem, terminal) =>
      { console with
        terminal := terminal
        ending := some (.failed problem.text []) }

def withReply (console : Console toolkit) (reply : Session.Reply) : Console toolkit :=
  match reply with
  | (.ok (), session) => { console with session := session }
  | (.error refusal, session) =>
      { console with
        session := session
        ending := some (.failed refusal.message refusal.causes) }

def start (toolkit : Toolkit) (session : Session) : Except SystemProblem (Console toolkit) :=
  (Terminal.start toolkit (screenWidth + 2) (screenHeight + 2)).map fun terminal =>
    let console : Console toolkit :=
      { session := session
        held := HeldKeys.empty
        terminal := terminal
        ending := none }
    console.withTerminal (Display.render (terminal.setTitle session.title))

def grant (console : Console toolkit) (thread : SystemAnswer) (request : Request) :
    Console toolkit :=
  if console.ending.isSome then console
  else
    match request with
    | .quit => { console with ending := some .quit }
    | .togglePause =>
        console.withReply
          (if console.session.phase = .paused then console.session.resume thread
          else console.session.pause)
    | .setPace pace => console.withReply (console.session.choosePace pace thread)

def withKeypad (console : Console toolkit) (typing : Typing) : Console toolkit :=
  let machine := { console.session.machine with keypad := typing.keypad }
  { console with
    session := { console.session with machine := machine }
    held := typing.held }

def typing (console : Console toolkit) : Typing :=
  { held := console.held
    keypad := console.session.machine.keypad }

def handle (console : Console toolkit) (now : Duration) (thread : SystemAnswer)
    (event : HostEvent) : Console toolkit :=
  let handled := console.typing.handle event now
  let typed := console.withKeypad handled.2
  match handled.1 with
  | none => typed
  | some request => typed.grant thread request

def beats (session : Session) : Nat → Nat → Session
  | 0, _ => session
  | count + 1, timersDue => beats (session.backgroundBeat (min timersDue 1)) count (timersDue - 1)

/-- One frame: events, expired keys, beats, and the picture unless the program ends before it. A
changed title is shown at once. -/
def frame (console : Console toolkit) (now : Duration) (events : List HostEvent)
    (count timersDue : Nat) (thread : SystemAnswer) : Console toolkit :=
  let handled := events.foldl (fun current event => current.handle now thread event) console
  let released := handled.withKeypad (handled.typing.releaseExpired now)
  if released.ending.isSome then released
  else
    let session := beats released.session count timersDue
    let screen := session.machine.screen
    let drawn :=
      if session.title = released.terminal.title then Display.present released.terminal screen
      else Display.render (Display.update (released.terminal.setTitle session.title) screen)
    let machine := { session.machine with screen := screen.swept }
    { released with session := { session with machine := machine } }.withTerminal drawn

end Console

end Chip8
