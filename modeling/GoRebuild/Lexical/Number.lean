import GoRebuild.Text.Hex

/-!
# Number literals

How many characters at the start of a text belong to a number literal. Digits may be separated by
single underscores.

* `digitRun` : digits of some base;
* `integerLength`, `floatLength` : the longest integer and floating-point literal, 0 if there is none;
* `numberLength` : the longest literal of either kind, or imaginary literal, with its kind.
-/

namespace GoRebuild.Lexical
open Text

inductive NumberKind where
  | integer | float | imaginary
  deriving DecidableEq, Repr

/-- How many characters continue a run of digits: digits, each with at most one underscore before. -/
def digitTail (digit : Char → Bool) : List Char → Nat
  | [] => 0
  | '_' :: d :: cs => if digit d then digitTail digit cs + 2 else 0
  | c :: cs => if digit c then digitTail digit cs + 1 else 0

/-- How many characters a run of digits has; it begins with a digit. -/
def digitRun (digit : Char → Bool) : List Char → Nat
  | [] => 0
  | c :: cs => if digit c then digitTail digit cs + 1 else 0

/-- A run of digits that an underscore may begin. -/
def looseRun (digit : Char → Bool) : List Char → Nat
  | '_' :: cs =>
    match digitRun digit cs with
    | 0 => 0
    | n => n + 1
  | cs => digitRun digit cs

def isBinaryDigit (c : Char) : Bool := c = '0' || c = '1'

def isOctalDigit (c : Char) : Bool := '0' ≤ c && c ≤ '7'

/-- A run of digits after `n` characters, where it is needed. -/
def after (n run : Nat) : Nat :=
  if run = 0 then 0 else n + run

/-- The longest integer literal. -/
def integerLength : List Char → Nat
  | '0' :: c :: cs =>
    if c = 'b' || c = 'B' then max 1 (after 2 (looseRun isBinaryDigit cs))
    else if c = 'o' || c = 'O' then max 1 (after 2 (looseRun isOctalDigit cs))
    else if c = 'x' || c = 'X' then max 1 (after 2 (looseRun isHexDigit cs))
    else 1 + looseRun isOctalDigit (c :: cs)
  | cs => digitRun Char.isDigit cs

/-- The length of an exponent behind one of two letters, 0 if there is none. -/
def exponentLength (small big : Char) : List Char → Nat
  | c :: cs =>
    if c = small || c = big then
      match cs with
      | '+' :: ds => after 2 (digitRun Char.isDigit ds)
      | '-' :: ds => after 2 (digitRun Char.isDigit ds)
      | ds => after 1 (digitRun Char.isDigit ds)
    else 0
  | [] => 0

/-- The longest decimal floating-point literal. -/
def decimalFloatLength (cs : List Char) : Nat :=
  let whole := digitRun Char.isDigit cs
  match cs.drop whole with
  | '.' :: rest =>
    let frac := digitRun Char.isDigit rest
    if whole = 0 ∧ frac = 0 then 0
    else whole + 1 + frac + exponentLength 'e' 'E' (rest.drop frac)
  | rest => if whole = 0 then 0 else after whole (exponentLength 'e' 'E' rest)

/-- The longest hexadecimal floating-point literal after its `0x`. -/
def hexFloatLength (cs : List Char) : Nat :=
  let whole := looseRun isHexDigit cs
  let mantissa := match cs.drop whole with
    | '.' :: rest =>
      let frac := digitRun isHexDigit rest
      if whole = 0 ∧ frac = 0 then 0 else whole + 1 + frac
    | _ => whole
  if mantissa = 0 then 0 else after (2 + mantissa) (exponentLength 'p' 'P' (cs.drop mantissa))

/-- The longest floating-point literal. -/
def floatLength (cs : List Char) : Nat :=
  match cs with
  | '0' :: c :: rest =>
    if c = 'x' || c = 'X' then hexFloatLength rest else decimalFloatLength cs
  | _ => decimalFloatLength cs

/-- The longest number literal and its kind, `none` where there is no number. -/
def numberLength (cs : List Char) : Option (NumberKind × Nat) :=
  let int := integerLength cs
  let float := floatLength cs
  let longest := max (max int float) (digitRun Char.isDigit cs)
  if longest ≠ 0 ∧ (cs.drop longest).head? = some 'i' then some (.imaginary, longest + 1)
  else if float > int then some (.float, float)
  else if int ≠ 0 then some (.integer, int)
  else none

end GoRebuild.Lexical
