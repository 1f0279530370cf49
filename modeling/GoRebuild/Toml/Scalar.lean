import GoRebuild.Lexical.Number
import GoRebuild.Scan
import GoRebuild.Toml.Basic

/-!
# TOML scalars

* `basicString`, `literalString`, `blockString`, `rawBlockString` : the four kinds of strings;
* `integer`, `decimal`, `dateTime`, `boolean` : the other scalars.

A line break inside a string of several lines is a line feed, however it is written.
-/

namespace GoRebuild.Toml
open Scan Text

/-- A scan of characters. -/
abbrev Chars (α : Type) := Scan Char α

/-- Takes this character. -/
def char (c : Char) : Chars Unit := do
  let _ ← item (· = c)

def word : List Char → Chars Unit
  | [] => pure ()
  | c :: cs => do
    char c
    word cs

/-- As many as there are. -/
def all {α : Type} (p : Chars α) : Chars (List α) := do
  many p (← left)

/-! ## Strings -/

/-- A character that stands for itself in a string: no control character but the tab. -/
def isPlain (c : Char) : Bool :=
  c = '\t' || (' ' ≤ c && c.toNat ≠ 127)

def lineBreak : Chars Unit :=
  char '\n' <|> word ['\r', '\n']

/-- White space inside a line. -/
def blanks : Chars Unit := do
  let _ ← while' fun c => c = ' ' || c = '\t'

/-- So many hexadecimal digits as a character. -/
def codePoint (digits : Nat) : Chars Char := do
  let ds ← many (item isHexDigit) digits
  require (ds.length = digits)
  let n := ds.foldl (fun n d => n * 16 + hexValue d) 0
  require (n < 0xD800 || (0xDFFF < n && n < 0x110000))
  pure (Char.ofNat n)

/-- What a backslash and a letter stand for. -/
def escapes : List (Char × Char) :=
  [('b', Char.ofNat 8), ('t', '\t'), ('n', '\n'), ('f', Char.ofNat 12), ('r', '\r'), ('"', '"'),
   ('\\', '\\')]

/-- A character behind a backslash. -/
def escaped : Chars Char := do
  let c ← item fun _ => true
  if c = 'u' then codePoint 4
  else if c = 'U' then codePoint 8
  else StateT.lift (escapes.lookup c)

/-- A character of a string with escapes. -/
def basicChar : Chars Char :=
  item (fun c => isPlain c && c ≠ '"' && c ≠ '\\') <|> (do
    char '\\'
    escaped)

/-- A string on one line, with escapes. -/
def basicString : Chars String := do
  char '"'
  let cs ← all basicChar
  char '"'
  pure (String.ofList cs)

/-- A string on one line, without escapes. -/
def literalString : Chars String := do
  char '\''
  let cs ← while' fun c => isPlain c && c ≠ '\''
  char '\''
  pure (String.ofList cs)

/-- One or two quotes that something else follows. -/
def innerQuotes (q : Char) : Chars (List Char) :=
  (do
    word [q, q]
    let c ← next?
    require (c.isSome && c ≠ some q)
    pure [q, q]) <|> (do
    char q
    let c ← next?
    require (c.isSome && c ≠ some q)
    pure [q])

/-- Three quotes at the end of a string, and up to two before them that belong to it. -/
def lastQuotes (q : Char) : Chars (List Char) :=
  (do
    word [q, q, q, q, q]
    pure [q, q]) <|> (do
    word [q, q, q, q]
    pure [q]) <|> (do
    word [q, q, q]
    pure [])

/-- A line break as a line feed. -/
def lineFeed : Chars (List Char) := do
  lineBreak
  pure ['\n']

/-- A backslash at the end of a line, which takes all white space behind it. -/
def joinLines : Chars (List Char) := do
  char '\\'
  blanks
  lineBreak
  let _ ← all (item (fun c => c = ' ' || c = '\t') *> pure () <|> lineBreak)
  pure []

/-- A string over several lines. -/
def quotedLines (q : Char) (piece : Chars (List Char)) : Chars String := do
  word [q, q, q]
  let _ ← optional lineBreak
  let pieces ← all (piece <|> innerQuotes q)
  let last ← lastQuotes q
  pure (String.ofList (pieces.flatten ++ last))

/-- A string over several lines, with escapes. -/
def blockString : Chars String :=
  quotedLines '"' ((do
    let c ← basicChar
    pure [c]) <|> lineFeed <|> joinLines)

/-- A string over several lines, without escapes. -/
def rawBlockString : Chars String :=
  quotedLines '\'' ((do
    let c ← item fun c => isPlain c && c ≠ '\''
    pure [c]) <|> lineFeed)

def string : Chars String :=
  blockString <|> rawBlockString <|> basicString <|> literalString

/-! ## Numbers -/

/-- Digits, with single underscores between them. -/
def digits (digit : Char → Bool) : Chars (List Char) := fun cs =>
  match Lexical.digitRun digit cs with
  | 0 => none
  | n => some ((cs.take n).filter (· ≠ '_'), cs.drop n)

/-- The value of digits in a base. -/
def valueOf (base : Nat) (ds : List Char) : Nat :=
  ds.foldl (fun n d => n * base + hexValue d) 0

/-- A sign; whether it is a minus. -/
def sign : Chars Bool :=
  (do
    char '-'
    pure true) <|> (do
    char '+'
    pure false) <|> pure false

/-- A number as 64 bits with a sign hold it. -/
def int64 (n : Int) : Chars Int := do
  require (-Int.pow 2 63 ≤ n && n < Int.pow 2 63)
  pure n

/-- Decimal digits, of which the first is not zero unless it is the only one. -/
def wholeDigits : Chars (List Char) :=
  (do
    char '0'
    pure ['0']) <|> digits Char.isDigit

/-- An integer with a letter for its base. -/
def prefixed (letter : Char) (base : Nat) (digit : Char → Bool) : Chars Int := do
  word ['0', letter]
  let ds ← digits digit
  int64 (valueOf base ds)

def integer : Chars Int :=
  prefixed 'x' 16 isHexDigit <|> prefixed 'o' 8 Lexical.isOctalDigit <|>
    prefixed 'b' 2 Lexical.isBinaryDigit <|> (do
    let negative ← sign
    let ds ← wholeDigits
    let n : Int := Int.ofNat (valueOf 10 ds)
    int64 (if negative then -n else n))

/-- Whether digits with the decimal point moved by an exponent are beyond all finite numbers of 64
bits: half a unit above the largest, or more. -/
def overflows (ds : List Char) (exponent : Int) : Bool :=
  let n := valueOf 10 ds
  let magnitude := Int.ofNat (Nat.toDigits 10 n).length + exponent
  if n = 0 || magnitude < 300 then false
  else if 400 < magnitude then true
  else
    let limit := Nat.pow 2 1024 - Nat.pow 2 970
    if 0 ≤ exponent then limit ≤ n * Nat.pow 10 exponent.toNat
    else limit * Nat.pow 10 (-exponent).toNat ≤ n

def exponent : Chars Int := do
  let _ ← item fun c => c = 'e' || c = 'E'
  let negative ← sign
  let ds ← digits Char.isDigit
  let n : Int := Int.ofNat (valueOf 10 ds)
  pure (if negative then -n else n)

/-- A number with a fraction or exponent, not too large, or one of the special numbers. -/
def decimal : Chars Unit :=
  (do
    let negative ← sign
    let whole ← wholeDigits
    let fraction ← optional (do
      char '.'
      digits Char.isDigit)
    let e ← optional exponent
    require (fraction.isSome || e.isSome)
    let fs := fraction.getD []
    require (negative || !overflows (whole ++ fs) (e.getD 0 - Int.ofNat fs.length))) <|> (do
    let _ ← sign
    word ['i', 'n', 'f'] <|> word ['n', 'a', 'n'])

/-! ## Dates and times -/

/-- A number of so many digits in a range. -/
def field (digits low high : Nat) : Chars Nat := do
  let ds ← many (item Char.isDigit) digits
  let n := valueOf 10 ds
  require (ds.length = digits && low ≤ n && n ≤ high)
  pure n

/-- How many days a month has. -/
def daysIn (year month : Nat) : Nat :=
  if month = 2 then
    if (year % 4 = 0 ∧ year % 100 ≠ 0) ∨ year % 400 = 0 then 29 else 28
  else if [4, 6, 9, 11].contains month then 30
  else 31

/-- A day. -/
def date : Chars Unit := do
  let year ← field 4 0 9999
  char '-'
  let month ← field 2 1 12
  char '-'
  let _ ← field 2 1 (daysIn year month)

def time : Chars Unit := do
  let _ ← field 2 0 23
  char ':'
  let _ ← field 2 0 59
  char ':'
  let _ ← field 2 0 60
  let _ ← optional (do
    char '.'
    let ds ← while' Char.isDigit
    require (!ds.isEmpty))

/-- The distance of a time from universal time. -/
def offset : Chars Unit :=
  (do
    let _ ← item fun c => c = 'Z' || c = 'z') <|> (do
    let _ ← item fun c => c = '+' || c = '-'
    let _ ← field 2 0 23
    char ':'
    let _ ← field 2 0 59)

/-- A day, a time, or a day with a time. -/
def dateTime : Chars Unit :=
  (do
    date
    let _ ← optional (do
      let _ ← item fun c => c = 'T' || c = 't' || c = ' '
      time
      let _ ← optional offset)) <|> time

def boolean : Chars Bool :=
  (do
    word ['t', 'r', 'u', 'e']
    pure true) <|> (do
    word ['f', 'a', 'l', 's', 'e']
    pure false)

def scalar : Chars Toml :=
  (do
    let s ← string
    pure (.text s)) <|> (do
    dateTime
    pure .moment) <|> (do
    decimal
    pure .float) <|> (do
    let n ← integer
    pure (.int n)) <|> (do
    let b ← boolean
    pure (.bool b))

end GoRebuild.Toml
