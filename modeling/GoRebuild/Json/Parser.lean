import GoRebuild.Json.Basic
import GoRebuild.Text.Hex

/-!
# Reading JSON

* `Json.parse? room s` : the value that a text writes, with white space around it and nothing else. Arrays and objects are
  refused where more than `room` of them are nested in each other: readers that descend with the text stop somewhere, many
  of them after 127.

The steps take the rest of the text and return what they read and what is left. Strings hold no
control characters, and escaped surrogates come in pairs. The recursion is bounded by the length of
the text: every two steps read at least one character.
-/

namespace GoRebuild.Json
open GoRebuild.Text

/-- JSON's white space. -/
def isSpace (c : Char) : Bool :=
  c = ' ' || c = '\n' || c = '\r' || c = '\t'

/-- The text after its leading white space. -/
def skipSpace (cs : List Char) : List Char :=
  cs.dropWhile isSpace

/-- A number of four hexadecimal digits. -/
def hex4? : List Char → Option (Nat × List Char)
  | a :: b :: c :: d :: rest =>
    if isHexDigit a && isHexDigit b && isHexDigit c && isHexDigit d then
      some (((hexValue a * 16 + hexValue b) * 16 + hexValue c) * 16 + hexValue d, rest)
    else none
  | _ => none

/-- What follows `\u`: one unit, or a pair of surrogates. -/
def unicode? (cs : List Char) : Option (Char × List Char) := do
  let (n, rest) ← hex4? cs
  if 0xD800 ≤ n ∧ n < 0xDC00 then
    match rest with
    | '\\' :: 'u' :: rest =>
      let (m, rest) ← hex4? rest
      if 0xDC00 ≤ m ∧ m < 0xE000 then
        some (Char.ofNat (0x10000 + (n - 0xD800) * 0x400 + (m - 0xDC00)), rest)
      else none
    | _ => none
  else if 0xDC00 ≤ n ∧ n < 0xE000 then none
  else some (Char.ofNat n, rest)

/-- The character that a backslash and `c` stand for, `\u` excepted. -/
def unescape? (c : Char) : Option Char :=
  if c = '"' then some '"'
  else if c = '\\' then some '\\'
  else if c = '/' then some '/'
  else if c = 'b' then some (Char.ofNat 8)
  else if c = 'f' then some (Char.ofNat 12)
  else if c = 'n' then some '\n'
  else if c = 'r' then some '\r'
  else if c = 't' then some '\t'
  else none

/-- The rest of a string after its opening quote; `acc` holds what was read, last first. -/
def stringBody? : Nat → List Char → List Char → Option (String × List Char)
  | 0, _, _ => none
  | _ + 1, _, [] => none
  | n + 1, acc, c :: cs =>
    if c = '"' then some (String.ofList acc.reverse, cs)
    else if c = '\\' then
      match cs with
      | [] => none
      | 'u' :: cs =>
        match unicode? cs with
        | some (d, cs) => stringBody? n (d :: acc) cs
        | none => none
      | e :: cs =>
        match unescape? e with
        | some d => stringBody? n (d :: acc) cs
        | none => none
    else if c.toNat < 0x20 then none
    else stringBody? n (c :: acc) cs

/-- A string, from its opening quote. -/
def string? : List Char → Option (String × List Char)
  | '"' :: cs => stringBody? (cs.length + 1) [] cs
  | _ => none

/-- The value of a row of decimal digits. -/
def digitsValue (ds : List Char) : Nat :=
  ds.foldl (fun n d => n * 10 + (d.toNat - 48)) 0

/-- A fraction: a point and digits, or nothing. -/
def fraction? : List Char → Option (List Char × List Char)
  | '.' :: cs =>
    let ds := cs.takeWhile Char.isDigit
    if ds.isEmpty then none else some ('.' :: ds, cs.dropWhile Char.isDigit)
  | cs => some ([], cs)

/-- An exponent: its letter, a sign and digits, or nothing. -/
def exponent? : List Char → Option (List Char × List Char)
  | c :: cs =>
    if c = 'e' ∨ c = 'E' then
      let (sign, cs) := match cs with
        | '+' :: cs => (['+'], cs)
        | '-' :: cs => (['-'], cs)
        | cs => ([], cs)
      let ds := cs.takeWhile Char.isDigit
      if ds.isEmpty then none else some (c :: sign ++ ds, cs.dropWhile Char.isDigit)
    else some ([], c :: cs)
  | [] => some ([], [])

def number? (cs : List Char) : Option (Json × List Char) := do
  let (neg, cs) := match cs with
    | '-' :: cs => (true, cs)
    | cs => (false, cs)
  let ds := cs.takeWhile Char.isDigit
  let cs := cs.dropWhile Char.isDigit
  if ds.isEmpty ∨ (ds.length > 1 ∧ ds.head? = some '0') then none
  else
    let (frac, cs) ← fraction? cs
    let (exp, cs) ← exponent? cs
    if frac.isEmpty && exp.isEmpty && !(neg && digitsValue ds = 0) then
      let n := digitsValue ds
      some (int (if neg then -(n : Int) else n), cs)
    else
      some (decimal (String.ofList ((if neg then ['-'] else []) ++ ds ++ frac ++ exp)), cs)

/-- The text after a word that it has to begin with. -/
def word : List Char → List Char → Option (List Char)
  | [], cs => some cs
  | w :: ws, c :: cs => if w = c then word ws cs else none
  | _ :: _, [] => none

mutual
/-- A value, without white space before it. An array or object takes up some of the room. -/
def value? : Nat → Nat → List Char → Option (Json × List Char)
  | _, 0, _ => none
  | _, _ + 1, [] => none
  | room, n + 1, c :: cs =>
    if c = '[' then
      if room = 0 then none
      else match skipSpace cs with
        | ']' :: cs => some (arr [], cs)
        | cs => (items? (room - 1) n cs).map fun r => (arr r.1, r.2)
    else if c = '\x7b' then
      if room = 0 then none
      else match skipSpace cs with
        | '\x7d' :: cs => some (obj [], cs)
        | cs => (members? (room - 1) n cs).map fun r => (obj r.1, r.2)
    else if c = '"' then (string? (c :: cs)).map fun r => (str r.1, r.2)
    else if c = 'n' then (word "ull".toList cs).map fun r => (null, r)
    else if c = 't' then (word "rue".toList cs).map fun r => (bool true, r)
    else if c = 'f' then (word "alse".toList cs).map fun r => (bool false, r)
    else number? (c :: cs)
/-- The elements of an array up to its closing bracket; at least one. -/
def items? : Nat → Nat → List Char → Option (List Json × List Char)
  | _, 0, _ => none
  | room, n + 1, cs =>
    match value? room n cs with
    | none => none
    | some (v, cs) =>
      match skipSpace cs with
      | ']' :: cs => some ([v], cs)
      | ',' :: cs => (items? room n (skipSpace cs)).map fun r => (v :: r.1, r.2)
      | _ => none
/-- The members of an object up to its closing brace; at least one. -/
def members? : Nat → Nat → List Char → Option (List (String × Json) × List Char)
  | _, 0, _ => none
  | room, n + 1, cs =>
    match string? cs with
    | none => none
    | some (k, cs) =>
      match skipSpace cs with
      | ':' :: cs =>
        match value? room n (skipSpace cs) with
        | none => none
        | some (v, cs) =>
          match skipSpace cs with
          | '\x7d' :: cs => some ([(k, v)], cs)
          | ',' :: cs => (members? room n (skipSpace cs)).map fun r => ((k, v) :: r.1, r.2)
          | _ => none
      | _ => none
end

/-- The value that a text writes, if no more than `room` arrays and objects are nested in each other. -/
def parse? (room : Nat) (s : String) : Option Json :=
  let cs := s.toList
  match value? room (2 * cs.length + 2) (skipSpace cs) with
  | some (v, rest) => if (skipSpace rest).isEmpty then some v else none
  | none => none

end GoRebuild.Json
