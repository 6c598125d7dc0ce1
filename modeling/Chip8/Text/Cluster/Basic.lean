import Chip8.Text.Cluster.Class
/-!
Cutting a text into clusters. Whether a character joins the cluster before it depends on its class,
on the class of the character before it, and on what `Lookback` keeps of those further back.
-/

namespace Chip8.Text

/-- How far the text before a place has come in tying two consonants together. -/
inductive Tie where
  | none
  | begun
  | made
  deriving DecidableEq, Repr

structure Lookback where
  latest : BreakClass
  oddIndicators : Bool
  /-- The text ends with a pictograph, perhaps with marks behind it and then a joiner. -/
  pictograph : Bool
  tie : Tie
  deriving DecidableEq, Repr

namespace BreakClass

def isControl : BreakClass → Bool
  | .carriageReturn | .lineFeed | .control => true
  | _ => false

def isMark : BreakClass → Bool
  | .extend | .linker | .joiner | .spacingMark => true
  | _ => false

def formSyllable : BreakClass → BreakClass → Bool
  | .leadingJamo, .leadingJamo | .leadingJamo, .vowelJamo => true
  | .leadingJamo, .openSyllable | .leadingJamo, .closedSyllable => true
  | .openSyllable, .vowelJamo | .openSyllable, .trailingJamo => true
  | .vowelJamo, .vowelJamo | .vowelJamo, .trailingJamo => true
  | .closedSyllable, .trailingJamo | .trailingJamo, .trailingJamo => true
  | _, _ => false

end BreakClass

namespace Lookback

def start : Lookback :=
  { latest := .control
    oddIndicators := false
    pictograph := false
    tie := .none }

/-- What is known once a character is passed. Of the marks only a non-joiner unties. -/
def pass (before : Lookback) (code : Nat) : Lookback :=
  let next := BreakClass.ofCode code
  { latest := next
    oddIndicators := next == .indicator && !before.oddIndicators
    pictograph :=
      match next with
      | .pictograph => true
      | .extend | .linker | .joiner => before.pictograph && before.latest != .joiner
      | _ => false
    tie :=
      match next with
      | .consonant => .begun
      | .linker => if before.tie = .none then .none else .made
      | .extend => if code = 0x200c then .none else before.tie
      | .joiner => before.tie
      | _ => .none }

def joins (before : Lookback) (code : Nat) : Bool :=
  let next := BreakClass.ofCode code
  if before.latest.isControl || next.isControl then
    before.latest == .carriageReturn && next == .lineFeed
  else
    next.isMark || before.latest == .prepend || before.latest.formSyllable next ||
      next == .consonant && before.tie == .made ||
      next == .pictograph && before.pictograph && before.latest == .joiner ||
      next == .indicator && before.oddIndicators

end Lookback

/-- The clusters of a text of which some is read; the cluster in progress stands in reverse. -/
def clustersFrom (before : Lookback) (cluster : List Char) : List Char → List (List Char)
  | [] => [cluster.reverse]
  | character :: later =>
      let passed := before.pass character.toNat
      if before.joins character.toNat then clustersFrom passed (character :: cluster) later
      else cluster.reverse :: clustersFrom passed [character] later

def clusters : List Char → List (List Char)
  | [] => []
  | character :: later => clustersFrom (Lookback.start.pass character.toNat) [character] later

end Chip8.Text
