import GoRebuild.Text.Blank

/-!
# Comparing a file with its rebuild

Comments and blank lines are not carried through the builder calls, so they do not count.

* `Verify.lines` : the lines of a text;
* `Verify.stripComment` : a line up to its line comment;
* `Verify.significantLines` : the lines that are compared;
* `Verify.compare` : the first difference between two texts;
* `Verify.roundTrip` : runs a program, formats both sides and compares them.
-/

namespace GoRebuild.Verify
open Text

/-! ## Lines -/

/-- The text split at each line feed, the last piece included. -/
def pieces : List Char → List (List Char)
  | [] => [[]]
  | c :: cs =>
    match pieces cs with
    | [] => [[c]]
    | l :: ls => if c = '\n' then [] :: l :: ls else (c :: l) :: ls

/-- The line without a carriage return at its end. -/
def dropReturn (line : List Char) : List Char :=
  if line.getLast? = some '\r' then line.dropLast else line

/-- The lines of pieces: each one that a line feed ends loses one carriage return before it, and an
empty last piece is no line. -/
def linesOf : List (List Char) → List (List Char)
  | [] => []
  | [l] => if l.isEmpty then [] else [l]
  | l :: ls => dropReturn l :: linesOf ls

def lines (cs : List Char) : List (List Char) :=
  linesOf (pieces cs)

/-! ## Line comments -/

/-- The quotes that open a literal. -/
def isQuote (c : Char) : Bool :=
  c = '"' || c = '\x60' || c = '\''

/-- The line up to two slashes outside literals; `quote` is the literal that is open. A backslash takes
the next character with it, except between backquotes. -/
def stripFrom : Option Char → List Char → List Char
  | _, [] => []
  | some q, c :: cs =>
    if c = q then c :: stripFrom none cs
    else if c = '\\' ∧ q ≠ '\x60' then
      match cs with
      | [] => [c]
      | d :: ds => c :: d :: stripFrom (some q) ds
    else c :: stripFrom (some q) cs
  | none, c :: cs =>
    if isQuote c then c :: stripFrom (some c) cs
    else if c = '/' ∧ cs.head? = some '/' then []
    else c :: stripFrom none cs

/-- A line up to its line comment. -/
def stripComment (line : List Char) : List Char :=
  stripFrom none line

/-! ## Comparison -/

/-- The lines that are compared, without comments and the white space at their ends. -/
def significantLines (text : String) : List String :=
  (((lines text.toList).map fun l => dropBlankEnd (stripComment l)).filter fun l =>
    !l.all isBlank).map String.ofList

/-- How a comparison ends. -/
inductive Outcome where
  | agree
  /-- the first difference; lines are counted among those compared -/
  | differ (line : Nat) (expected actual : String)
  deriving DecidableEq, Repr

/-- Stands for a line where a text has ended. -/
def endMark : String := "<end of file>"

/-- The first difference of two lists of lines, counted from a number. -/
def compareFrom (line : Nat) : List String → List String → Outcome
  | [], [] => .agree
  | e :: es, a :: as => if e = a then compareFrom (line + 1) es as else .differ line e a
  | e :: _, [] => .differ line e endMark
  | [], a :: _ => .differ line endMark a

/-- The first difference of two texts. -/
def compare (expected actual : String) : Outcome :=
  compareFrom 1 (significantLines expected) (significantLines actual)

/-- What is said of an outcome. -/
def Outcome.message : Outcome → String
  | agree => "round trip ok"
  | differ line expected actual =>
    "round trip differs at line " ++ toString line ++ "\n  expected: " ++ expected
      ++ "\n  actual:   " ++ actual

/-- Runs a program, formats the original and what the program printed, and compares the two. -/
def roundTrip {m : Type → Type} [Monad m] (run format : String → m String)
    (original program : String) : m Outcome := do
  let rebuilt ← run program
  let expected ← format original
  let actual ← format rebuilt
  return compare expected actual

end GoRebuild.Verify
