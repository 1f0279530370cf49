import GoRebuild.Grammar.Basic
import GoRebuild.Scan

/-!
# Reading rows of tokens

A parser takes tokens from the front of a row, or fails.

* `Parser` : scans of tokens;
* `Follow` : what may stand behind an expression, and so ends it;
* `sees`, `seesAll`, `take`, `takes`, `takeName`, `takeText`, `takeHalf`, `takeEnd` : one token;
* `commaList`, `closing` : rows;
* `preferring` : a choice that depends on what was read;
* `Layer` : the constructs that may stand inside themselves.

The symbols `++`, `--`, `<-`, `&&` and `&^` are one token only where the grammar has a place for them;
elsewhere they are two, and `takeHalf` takes the first.
-/

namespace GoRebuild.Grammar
open Lexical (Token TokenKind Place)
open Scan (many)

abbrev Parser (α : Type) := Scan Token α

/-- What may stand behind an expression. -/
structure Follow where
  /-- A line break ends it. -/
  line : Bool
  /-- A block follows, so that a brace after a name is no literal. -/
  block : Bool
  /-- `++` and `--` are one token. -/
  step : Bool
  /-- `<-` is one token. -/
  send : Bool
  deriving DecidableEq, Repr

namespace Follow

/-- Inside brackets nothing ends an expression early. -/
def inside : Follow := ⟨false, false, false, false⟩

/-- The start of a statement. -/
def statement : Follow := ⟨true, false, true, true⟩

/-- The start of the header of an `if`, `for` or `switch`. -/
def header : Follow := ⟨false, true, true, true⟩

/-- Behind the first expression of a statement: no token of its own for `++` and `<-`. -/
def value (f : Follow) : Follow := ⟨f.line, f.block, false, false⟩

/-- Behind a comma on the left of an assignment, which has to go on. -/
def target (f : Follow) : Follow := ⟨false, f.block, false, false⟩

end Follow

/-! ## One token -/

/-- Whether the next token is this one. -/
def sees (text : String) : Parser Bool := fun ts =>
  match ts with
  | t :: _ => some (t.text == text, ts)
  | [] => some (false, ts)

/-- Whether the next tokens are these. -/
def seesAll (texts : List String) : Parser Bool := fun ts =>
  some (texts.isPrefixOf ((ts.take texts.length).map (·.text)), ts)

/-- Whether a line break ends what comes before, if line breaks do that here. -/
def ends (line : Bool) : Parser Bool := fun ts =>
  match ts with
  | t :: _ => some (line && t.newLine, ts)
  | [] => some (false, ts)

/-- Where the next token stands. -/
def here : Parser Place := fun ts =>
  match ts with
  | t :: _ => some (t.place, ts)
  | [] => none

/-- Takes this token. -/
def take (text : String) : Parser Place := fun ts =>
  match ts with
  | t :: rest => if t.text == text then some (t.place, rest) else none
  | [] => none

/-- Takes this token if it is next. -/
def takes (text : String) : Parser Bool := fun ts =>
  match ts with
  | t :: rest => if t.text == text then some (true, rest) else some (false, ts)
  | [] => some (false, ts)

/-- Takes a word. -/
def takeName : Parser Name := fun ts =>
  match ts with
  | t :: rest => if t.kind = .word then some (⟨t.text, t.place⟩, rest) else none
  | [] => none

/-- Takes a string literal. -/
def takeText : Parser String := fun ts =>
  match ts with
  | t :: rest => if t.kind = .literal .string then some (t.text, rest) else none
  | [] => none

/-- Takes the first of the two characters of a token and leaves the second. -/
def takeHalf : Parser Place := fun ts =>
  match ts with
  | t :: rest =>
    match t.text.toList with
    | [_, c] =>
      some (t.place, ⟨t.kind, c.toString, false, ⟨t.place.token, t.place.shift + 1⟩⟩ :: rest)
    | _ => none
  | [] => none

/-- Takes the end of a statement or declaration: a line break, a semicolon, a NUL or the end. -/
def takeEnd : Parser Unit := fun ts =>
  match ts with
  | [] => some ((), [])
  | t :: rest =>
    if t.newLine then some ((), ⟨t.kind, t.text, false, t.place⟩ :: rest)
    else if t.text == ";" || t.kind = .stop then some ((), rest)
    else none

/-! ## Rows -/

/-- More entries, each behind a comma. -/
def commaTail {α : Type} (p : Parser α) (bound : Nat) : Parser (List α) :=
  many (do
    let _ ← take ","
    p) bound

/-- The entries of a list, with a comma between any two. -/
def commaList {α : Type} (p : Parser α) (bound : Nat) : Parser (List α) := do
  let x ← p
  let xs ← commaTail p bound
  pure (x :: xs)

/-- A closing bracket, a comma before it or not. -/
def closing (bracket : String) : Parser Unit := do
  let _ ← takes ","
  let _ ← take bracket
  pure ()

/-- What the second parser gives, unless it is of some kind and the first succeeds. -/
def preferring {α : Type} (p : Parser α) (odd : α → Bool) (q : Parser α) : Parser α := fun ts =>
  match q ts with
  | some (x, rest) => if odd x then p ts <|> some (x, rest) else some (x, rest)
  | none => p ts

/-! ## Constructs inside constructs -/

/-- Parsers for what may stand inside itself. -/
structure Layer where
  /-- No row in the source is longer. -/
  bound : Nat
  /-- An expression whose operators bind at least so tightly: 1 for `||` to 5 for `*`, 6 for an operand. -/
  expr : Follow → Nat → Parser Node
  /-- A type; a line break ends it or does not. -/
  type : Bool → Parser Node
  /-- The elements of a literal, from its opening brace. -/
  braces : Parser (List Node)
  block : Parser Block
  stmt : Parser Stmt
  conditional : Parser Conditional

/-- No construct may be nested this deep. -/
def Layer.none (bound : Nat) : Layer :=
  ⟨bound, fun _ _ => failure, fun _ => failure, failure, failure, failure, failure⟩

/-- An expression between brackets. -/
def Layer.inner (l : Layer) : Parser Node := l.expr .inside 1

end GoRebuild.Grammar
