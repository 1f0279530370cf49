import GoRebuild.Lexical.Literal
import GoRebuild.Lexical.Number
import GoRebuild.Lexical.Token
import GoRebuild.Text.Identifier

/-!
# From text to tokens

* `lexeme?` : kind and length of the longest token at the start of a text;
* `Cursor` : a position in the source while it is read;
* `skipBlanks` : a text after its white space and comments;
* `scan` : the tokens of a text with their positions, `none` where a character begins no token.

A comment counts as white space, and a line break inside one does not count as a line break. A comment
that is not closed is no comment: its slash is an operator.
-/

namespace GoRebuild.Lexical
open Text

/-! ## One token -/

/-- The first of the spellings that a text starts with. -/
def symbolLength (cs : List Char) : Option Nat :=
  (symbols.find? fun s => s.toList.isPrefixOf cs).map String.length

/-- The kind of token that a number literal is. -/
def NumberKind.litKind : NumberKind → LitKind
  | integer => .int
  | float => .float
  | imaginary => .imag

/-- Kind and length of the longest token at the start of a text. -/
def lexeme? (cs : List Char) : Option (TokenKind × Nat) :=
  match cs with
  | [] => none
  | c :: rest =>
    if isIdentifierStart c then
      let word := c :: rest.takeWhile isIdentifierPart
      some (if keywords.contains (String.ofList word) then .keyword else .word, word.length)
    else if c = '"' then (stringLength cs).map fun n => (.literal .string, n)
    else if c = '\x60' then (rawStringLength cs).map fun n => (.literal .string, n)
    else if c = '\'' then (runeLength cs).map fun n => (.literal .char, n)
    else if c = '\x00' then some (.stop, 1)
    else
      match numberLength cs with
      | some (kind, n) => some (.literal kind.litKind, n)
      | none => (symbolLength cs).map fun n => (.symbol, n)

/-! ## White space and comments -/

/-- A position in the source: bytes before it, lines before its line, and bytes before it on its line. -/
structure Cursor where
  offset : Nat
  row : Nat
  column : Nat
  deriving DecidableEq, Repr

namespace Cursor

/-- The start of a source. -/
def start : Cursor := ⟨0, 0, 0⟩

/-- The position after a character. -/
def advance (p : Cursor) (c : Char) : Cursor :=
  if c = '\n' then ⟨p.offset + 1, p.row + 1, 0⟩
  else ⟨p.offset + c.utf8Size, p.row, p.column + c.utf8Size⟩

/-- The position after a text. -/
def advanceBy (p : Cursor) (cs : List Char) : Cursor :=
  cs.foldl advance p

end Cursor

/-- White space between tokens. -/
def isSpace (c : Char) : Bool :=
  c = ' ' || (9 ≤ c.toNat && c.toNat ≤ 13)

/-- The length of a general comment after its opening, up to and with its end. -/
def commentTailLength : List Char → Option Nat
  | [] => none
  | '*' :: '/' :: _ => some 2
  | _ :: cs => (commentTailLength cs).map (· + 1)

/-- The length of the comment at the start of a text. -/
def commentLength : List Char → Option Nat
  | '/' :: '/' :: cs => some (2 + (cs.takeWhile (· ≠ '\n')).length)
  | '/' :: '*' :: cs => (commentTailLength cs).map (· + 2)
  | _ => none

/-- The text after its white space and comments, its position, and whether a line break outside
comments was passed. The bound is on the number of steps. -/
def skipBlanks : Nat → Cursor → Bool → List Char → Cursor × Bool × List Char
  | 0, p, newLine, cs => (p, newLine, cs)
  | _ + 1, p, newLine, [] => (p, newLine, [])
  | n + 1, p, newLine, c :: cs =>
    if isSpace c then skipBlanks n (p.advance c) (newLine || c = '\n') cs
    else
      match commentLength (c :: cs) with
      | some k => skipBlanks n (p.advanceBy ((c :: cs).take k)) newLine ((c :: cs).drop k)
      | none => (p, newLine, c :: cs)

/-! ## All tokens -/

/-- The tokens of the rest of a source, counted from `index`. -/
def scanFrom : Nat → Nat → Cursor → List Char → Option (List (Token × Cursor))
  | 0, _, _, _ => none
  | bound + 1, index, p, cs =>
    let (p, newLine, cs) := skipBlanks cs.length p false cs
    if cs.isEmpty then some []
    else do
      let (kind, n) ← lexeme? cs
      let text := cs.take n
      let rest ← scanFrom bound (index + 1) (p.advanceBy text) (cs.drop n)
      return (⟨kind, String.ofList text, newLine, ⟨index, 0⟩⟩, p) :: rest

/-- The tokens of a source with their positions. A byte order mark at the very start is passed over. -/
def scan (source : String) : Option (List (Token × Cursor)) :=
  match source.toList with
  | '\ufeff' :: cs => scanFrom (cs.length + 1) 0 (Cursor.start.advance '\ufeff') cs
  | cs => scanFrom (cs.length + 1) 0 .start cs

end GoRebuild.Lexical
