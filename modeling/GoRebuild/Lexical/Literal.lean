import GoRebuild.Text.Hex

/-!
# Quoted literals

How many characters at the start of a text belong to a rune or string literal, `none` where the
literal is not closed or holds an escape that is not allowed.

* `runeLength` : a rune between single quotes;
* `rawStringLength` : a string between backquotes;
* `stringLength` : an interpreted string between double quotes.
-/

namespace GoRebuild.Lexical
open Text

/-- Whether a text starts with so many hexadecimal digits. -/
def startsWithHex : Nat → List Char → Bool
  | 0, _ => true
  | _ + 1, [] => false
  | n + 1, c :: cs => isHexDigit c && startsWithHex n cs

/-- Whether a text starts with three octal digits. -/
def startsWithOctal : List Char → Bool
  | a :: b :: c :: _ =>
    '0' ≤ a && a ≤ '7' && '0' ≤ b && b ≤ '7' && '0' ≤ c && c ≤ '7'
  | _ => false

/-- The length of an escape in a rune literal, after its backslash. -/
def runeEscapeLength : List Char → Option Nat
  | [] => none
  | c :: cs =>
    if c = 'x' then if startsWithHex 2 cs then some 3 else none
    else if c = 'u' then if startsWithHex 4 cs then some 5 else none
    else if c = 'U' then if startsWithHex 8 cs then some 9 else none
    else if startsWithOctal (c :: cs) then some 3
    else if ['a', 'b', 'f', 'n', 'r', 't', 'v', '\\', '\'', '"'].contains c then some 1
    else none

def runeLength : List Char → Option Nat
  | '\'' :: '\\' :: cs =>
    match runeEscapeLength cs with
    | some n => if (cs.drop n).head? = some '\'' then some (n + 3) else none
    | none => none
  | '\'' :: c :: '\'' :: _ => if c = '\'' then none else some 3
  | _ => none

/-- The length of a raw string after its first quote. -/
def rawTailLength : List Char → Option Nat
  | [] => none
  | c :: cs => if c = '\x60' then some 1 else (rawTailLength cs).map (· + 1)

def rawStringLength : List Char → Option Nat
  | '\x60' :: cs => (rawTailLength cs).map (· + 1)
  | _ => none

/-- Whether a backslash before this text begins an escape of a string. -/
def isStringEscape : List Char → Bool
  | [] => false
  | c :: cs =>
    if c = 'x' then startsWithHex 2 cs
    else if c = 'u' then startsWithHex 4 cs
    else if c = 'U' then startsWithHex 8 cs
    else true

/-- The length of an interpreted string after its first quote. -/
def stringTailLength : List Char → Option Nat
  | [] => none
  | '\\' :: c :: cs =>
    if isStringEscape (c :: cs) then (stringTailLength cs).map (· + 2) else none
  | c :: cs =>
    if c = '"' then some 1
    else if c = '\n' || c = '\\' then none
    else (stringTailLength cs).map (· + 1)

def stringLength : List Char → Option Nat
  | '"' :: cs => (stringTailLength cs).map (· + 1)
  | _ => none

end GoRebuild.Lexical
