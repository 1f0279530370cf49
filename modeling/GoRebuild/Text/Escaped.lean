import GoRebuild.Text.Hex
import GoRebuild.Text.Unprintable

/-!
# Text shown in messages

A message shows a text between double quotes with everything that would not print made visible.

* `Escaped.escape c` : a character of the shown text;
* `Escaped.display s` : the text between quotes.

Unlike an interpreted literal (`GoRebuild.Text.Quoted`), code points are shown as a hexadecimal number
in braces without padding, and NUL as a backslash and a zero.
-/

namespace GoRebuild.Text.Escaped

/-- A code point by number: a backslash, `u` and the hexadecimal number in braces. -/
def codePoint (c : Char) : List Char :=
  ['\\', 'u', '\x7b'] ++ hex c.toNat ++ ['\x7d']

/-- A character as shown between the quotes. -/
def escape (c : Char) : List Char :=
  if c = '\x00' then ['\\', '0']
  else if c = '\t' then ['\\', 't']
  else if c = '\r' then ['\\', 'r']
  else if c = '\n' then ['\\', 'n']
  else if c = '\\' then ['\\', '\\']
  else if c = '"' then ['\\', '"']
  else if isExtending c || isUnprintable c then codePoint c
  else [c]

/-- A text between double quotes, with escapes. -/
def display (s : String) : String :=
  String.ofList ('"' :: (s.toList.flatMap escape ++ ['"']))

end GoRebuild.Text.Escaped
