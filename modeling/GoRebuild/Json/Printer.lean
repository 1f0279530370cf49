import GoRebuild.Json.Basic
import GoRebuild.Text.Hex

/-!
# Writing JSON

* `Json.quote s` : a string with JSON's escapes;
* `Json.compact v` : the value without white space;
* `Json.pretty v` : two blanks of indentation per level, one element or member a line, a blank after
  the colon, `[]` and braces without anything between them when empty.
-/

namespace GoRebuild.Json
open GoRebuild.Text

/-- A character inside a JSON string. -/
def escape (c : Char) : List Char :=
  if c = '"' then ['\\', '"']
  else if c = '\\' then ['\\', '\\']
  else if c = '\n' then ['\\', 'n']
  else if c = '\r' then ['\\', 'r']
  else if c = '\t' then ['\\', 't']
  else if c.toNat = 8 then ['\\', 'b']
  else if c.toNat = 12 then ['\\', 'f']
  else if c.toNat < 0x20 then
    ['\\', 'u', '0', '0', hexDigit (c.toNat / 16), hexDigit (c.toNat % 16)]
  else [c]

/-- A JSON string literal. -/
def quote (s : String) : String :=
  String.ofList ('"' :: (s.toList.flatMap escape ++ ['"']))

mutual
/-- A value without white space. -/
def compact : Json → String
  | null => "null"
  | bool b => if b then "true" else "false"
  | int n => toString n
  | decimal t => t
  | str s => quote s
  | arr [] => "[]"
  | arr (v :: vs) => "[" ++ compact v ++ compactItems vs ++ "]"
  | obj [] => "\x7b\x7d"
  | obj ((k, v) :: ms) => "\x7b" ++ quote k ++ ":" ++ compact v ++ compactMembers ms ++ "\x7d"
/-- The elements after the first. -/
def compactItems : List Json → String
  | [] => ""
  | v :: vs => "," ++ compact v ++ compactItems vs
/-- The members after the first. -/
def compactMembers : List (String × Json) → String
  | [] => ""
  | (k, v) :: ms => "," ++ quote k ++ ":" ++ compact v ++ compactMembers ms
end

/-- A line break and the indentation of a level. -/
def newline (level : Nat) : String :=
  String.ofList ('\n' :: List.replicate (2 * level) ' ')

mutual
/-- A value over several lines, its closing bracket on the level given. -/
def prettyAt (level : Nat) : Json → String
  | null => "null"
  | bool b => if b then "true" else "false"
  | int n => toString n
  | decimal t => t
  | str s => quote s
  | arr [] => "[]"
  | arr (v :: vs) =>
    "[" ++ newline (level + 1) ++ prettyAt (level + 1) v ++ prettyItems (level + 1) vs
      ++ newline level ++ "]"
  | obj [] => "\x7b\x7d"
  | obj ((k, v) :: ms) =>
    "\x7b" ++ newline (level + 1) ++ quote k ++ ": " ++ prettyAt (level + 1) v
      ++ prettyMembers (level + 1) ms ++ newline level ++ "\x7d"
/-- The elements after the first. -/
def prettyItems (level : Nat) : List Json → String
  | [] => ""
  | v :: vs => "," ++ newline level ++ prettyAt level v ++ prettyItems level vs
/-- The members after the first. -/
def prettyMembers (level : Nat) : List (String × Json) → String
  | [] => ""
  | (k, v) :: ms =>
    "," ++ newline level ++ quote k ++ ": " ++ prettyAt level v ++ prettyMembers level ms
end

/-- A value over several lines. -/
def pretty (v : Json) : String :=
  prettyAt 0 v

end GoRebuild.Json
