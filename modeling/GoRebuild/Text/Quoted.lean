import GoRebuild.Text.Hex

/-!
# Interpreted string literals

The generated program holds every text as an interpreted string literal.

* `Quoted.escape c` : how a character stands between the quotes;
* `Quoted.encode s` : the literal that denotes `s`.

Quotes and backslashes take a backslash, line feeds, carriage returns and tabs their letter, other
characters below U+0020 and U+007F two hexadecimal digits; all else stands for itself.
-/

namespace GoRebuild.Text.Quoted

/-- A character as written between the quotes. -/
def escape (c : Char) : List Char :=
  if c = '"' then ['\\', '"']
  else if c = '\\' then ['\\', '\\']
  else if c = '\n' then ['\\', 'n']
  else if c = '\r' then ['\\', 'r']
  else if c = '\t' then ['\\', 't']
  else if c.toNat < 0x20 ∨ c.toNat = 0x7F then
    ['\\', 'x', hexDigit (c.toNat / 16), hexDigit (c.toNat % 16)]
  else [c]

/-- The characters of the literal that denotes `cs`. -/
def encodeChars (cs : List Char) : List Char :=
  '"' :: (cs.flatMap escape ++ ['"'])

/-- The literal that denotes `s`. -/
def encode (s : String) : String :=
  String.ofList (encodeChars s.toList)

end GoRebuild.Text.Quoted
