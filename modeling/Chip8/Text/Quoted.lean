import Chip8.Text.Hex
import Chip8.Text.Visible
/-!
A single character as a quoted literal. Characters that would not show on their own are escaped.
-/

namespace Chip8.Text

def escaped (character : Char) : List Char :=
  if character = '\x00' then ['\x5c', '0']
  else if character = '\t' then ['\x5c', 't']
  else if character = '\n' then ['\x5c', 'n']
  else if character = '\r' then ['\x5c', 'r']
  else if character = '\x27' ∨ character = '\x5c' then ['\x5c', character]
  else if isVisible character then [character]
  else '\x5c' :: 'u' :: '\x7b' :: hexDigits 1 character.toNat ++ ['\x7d']

def quoted (character : Char) : String :=
  String.ofList ('\x27' :: escaped character ++ ['\x27'])

end Chip8.Text
