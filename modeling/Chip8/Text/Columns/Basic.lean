import Chip8.Text.Columns.Class
/-!
How many columns a cluster takes in a terminal. Characters add up, but for those that show together:
emoji that are joined or carry a skin tone, a selector that decides whether a character is shown as
an emoji, and a Khmer letter below another.
-/

namespace Chip8.Text

/-- What stands behind a character in its cluster, as far as it bears on how the character shows. -/
inductive Behind where
  | plain
  | lineFeed
  | emoji
  | modifier
  | emojiSelector
  | textSelector
  | joinedEmoji
  | joinedEmojiSelector
  | joinedKeycap
  | joinedIndicator
  /-- Some digits, some letters and the end mark, all of them tags of a flag, and then a joiner and
  an emoji. -/
  | joinedTags (digits letters : Nat)
  | subscriptLetter
  deriving DecidableEq, Repr

/-- The columns of a character that nothing behind it bears on, and what it is to the one before it.
Line feeds take no column, and other controls one. -/
def measureAlone (code : Nat) : Int × Behind :=
  if code = 0x0a then (0, .lineFeed)
  else if code ≤ 0xa0 then (1, .plain)
  else if code = 0xfe0f then (0, .emojiSelector)
  else if code = 0xfe0e then (0, .textSelector)
  else if isModifier code then (2, .modifier)
  else if within code emojiRanges then (2, .emoji)
  else if within code khmerSubscriptRanges then (1, .subscriptLetter)
  else (columnsAlone code, .plain)

/-- Before the end of a flag's tags stand three to six letters, or up to four letters with three
digits before them, and then the black flag. -/
def measureTag (code digits letters : Nat) : Option (Int × Behind) :=
  if 0xe0061 ≤ code ∧ code ≤ 0xe007a then
    if digits = 0 ∧ letters < 6 then some (0, .joinedTags 0 (letters + 1)) else none
  else if 0xe0030 ≤ code ∧ code ≤ 0xe0039 then
    if digits < 3 ∧ letters ≤ 4 then some (0, .joinedTags (digits + 1) letters) else none
  else if code = 0x1f3f4 ∧ (digits = 3 ∨ digits = 0 ∧ 3 ≤ letters) then some (0, .emoji)
  else none

/-- The columns of a character that shows together with what is behind it, and what it is to the one
before it. The second half of a flag and the sign that puts a letter below another take back the
column that was counted for the one behind. -/
def measureTogether (code : Nat) : Behind → Option (Int × Behind)
  | .plain => none
  | .lineFeed => if code = 0x0d then some (0, .plain) else none
  | .emoji => if code = 0x200d then some (0, .joinedEmoji) else none
  | .modifier =>
      if code = 0x200d then some (0, .joinedEmoji)
      else if within code modifierBaseRanges then some (0, .emoji)
      else none
  | .emojiSelector => if takesSelector code then some (2, .emoji) else none
  | .textSelector => if narrowsAsText code then some (1, .plain) else none
  | .joinedEmoji =>
      if code = 0xfe0f then some (0, .joinedEmojiSelector)
      else if code = 0x20e3 then some (0, .joinedKeycap)
      else if code = 0xe007f then some (0, .joinedTags 0 0)
      else if isIndicator code then some (1, .joinedIndicator)
      else if isModifier code then some (0, .modifier)
      else if within code emojiRanges then some (0, .emoji)
      else none
  | .joinedEmojiSelector => if takesSelector code then some (0, .emoji) else none
  | .joinedKeycap => if code = 0xfe0f then some (0, .joinedEmojiSelector) else none
  | .joinedIndicator => if isIndicator code then some (-1, .plain) else none
  | .joinedTags digits letters => measureTag code digits letters
  | .subscriptLetter =>
      if code = 0x17d2 then some (-1, .plain)
      else if code = 0x200d ∨ within code unseenMarkRanges then some (0, .subscriptLetter)
      else none

def measure (code : Nat) (behind : Behind) : Int × Behind :=
  (measureTogether code behind).getD (measureAlone code)

/-- The columns of a cluster, counted from its end. -/
def columns (cluster : List Char) : Nat :=
  (cluster.foldr (fun character counted =>
    let measured := measure character.toNat counted.2
    (measured.1 + counted.1, measured.2)) ((0 : Int), Behind.plain)).1.toNat

end Chip8.Text
