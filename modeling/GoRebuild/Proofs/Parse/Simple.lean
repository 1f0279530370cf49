import GoRebuild.Grammar.Basic
import GoRebuild.Proofs.Lexical.Scans
import GoRebuild.Reader.Source
import Mathlib.Data.List.Forall2

/-!
# Simple sources

Sources of imports and of functions without parameters, the statements of which return, define or call. Such sources are
written by this program, and it is said here what they consist of and what a parser has to make of them.

* `Primary`, `Line`, `Result`, `Routine`, `Imported`, `Part` : what is written;
* `row`, `rows` : the tokens of it, each line break in its place;
* `tree` : what it becomes, wherever it stands;
* `isPlain` : names are identifiers and the rest is what it looks like;
* `Forms` : what is written is what a derivation has, with names and literals as they are written.
-/

namespace GoRebuild.Grammar
open Lexical

/-! ## Expressions -/

/-- A name, a literal, a member or a call, the arguments of which are broken over lines or not. -/
inductive Primary where
  | name (text : String)
  | literal (lit : BasicLit)
  | select (x : Primary) (member : String)
  | call (fn : Primary) (args : List Primary) (broken : Bool)

/-- What starts operands that are no names and no literals, or stands before operands. -/
def openings : List String :=
  ["(", "[", "func", "*", "+", "-", "!", "^", "&", "<-", "++", "--", "&&", "&^"]

/-- Whether a text starts an operand that is a name or a literal, where any operand can stand. -/
def startsOperand (text : String) : Bool :=
  !openings.contains text

/-- A text starts an operand if it has a property that no operator and no bracket has. -/
theorem startsOperand_of {text : String} (p : String → Bool) (h : p text) (hopenings : openings.any p = false) : startsOperand text := by
  rw [startsOperand, Bool.not_eq_true', List.contains_eq_mem, decide_eq_false_iff_not]
  intro hmem
  rw [List.any_eq_false] at hopenings
  exact hopenings text hmem h

namespace Primary

mutual

/-- The tokens of an expression behind a line break or not. -/
def row (newLine : Bool) : Primary → List Spelling
  | .name n => [⟨.word, n, newLine⟩]
  | .literal l => [⟨.literal l.kind, l.value, newLine⟩]
  | .select x m => x.row newLine ++ [sign ".", inLine .word m]
  | .call f [] _ => f.row newLine ++ [sign "(", sign ")"]
  | .call f (a :: as) broken => f.row newLine ++ sign "(" :: (a.row broken ++ (rowRest broken as ++ callEnd broken))

/-- The tokens of the arguments after the first. -/
def rowRest (broken : Bool) : List Primary → List Spelling
  | [] => []
  | a :: as => sign "," :: (a.row broken ++ rowRest broken as)

end

mutual

def tree : Primary → Expr
  | .name n => .mk (.ident n) .none
  | .literal l => .mk (.basicLit l) .none
  | .select x m => .mk (.selector x.tree ⟨m, .none⟩) .none
  | .call f as _ => .mk (.call f.tree (trees as) false) .none

def trees : List Primary → List Expr
  | [] => []
  | a :: as => a.tree :: trees as

end

mutual

/-- Whether names are identifiers, none of them that of a call with a type, and literals start as such. -/
def isPlain : Primary → Bool
  | .name n => isWord n && !(["make", "new"].contains n)
  | .literal l => startsOperand l.value && l.value != ")"
  | .select x m => x.isPlain && isWord m
  | .call f as _ => f.isPlain && arePlain as

/-- The same of each of a list. -/
def arePlain : List Primary → Bool
  | [] => true
  | a :: as => a.isPlain && arePlain as

end

mutual

/-- An expression is what was written. -/
def Forms : Primary → Node → Prop
  | .name n, x => ∃ p, x = .mk (.name n) p
  | .literal l, x => ∃ p, x = .mk (.literal l) p
  | .select y m, x => ∃ z n p, x = .mk (.select z n) p ∧ y.Forms z ∧ n.text = m
  | .call f as _, x => ∃ g bs p, x = .mk (.call g bs) p ∧ f.Forms g ∧ AllForm as bs

/-- So are arguments, none of which is spread. -/
def AllForm : List Primary → List Arg → Prop
  | [], bs => bs = []
  | a :: as, bs => ∃ x cs, bs = .plain x :: cs ∧ a.Forms x ∧ AllForm as cs

end

end Primary

/-! ## Statements -/

/-- A statement that returns an expression, gives it a name or calls. -/
inductive Line where
  | giveBack (x : Primary)
  | define (name : String) (x : Primary)
  | call (x member : String) (args : List Primary)

namespace Line

/-- The call of a member. -/
def called (x member : String) (args : List Primary) : Primary :=
  .call (.select (.name x) member) args false

/-- The tokens of a statement behind a line break or not. -/
def row (newLine : Bool) : Line → List Spelling
  | giveBack x => ⟨.keyword, "return", newLine⟩ :: x.row false
  | define n x => ⟨.word, n, newLine⟩ :: sign ":=" :: x.row false
  | call x m args => (called x m args).row newLine

/-- The tokens of statements, each on a line of its own but for the first. -/
def rows (newLine : Bool) : List Line → List Spelling
  | [] => []
  | s :: ss => s.row newLine ++ rows true ss

def tree : Line → GoRebuild.Stmt
  | giveBack x => .mk (.returnStmt [x.tree]) .none
  | define n x => .mk (.assign [.mk (.ident n) .none] ":=" [x.tree]) .none
  | call x m args => .mk (.expr (called x m args).tree) .none

/-- Whether the expression is plain and a name that is defined is an identifier. -/
def isPlain : Line → Bool
  | giveBack x => x.isPlain
  | define n x => (Primary.name n).isPlain && x.isPlain
  | call x m args => (called x m args).isPlain

/-- A statement is what was written. -/
def Forms : Line → Stmt → Prop
  | giveBack x, s => ∃ y p, s = .mk (.returnStmt [y]) p ∧ x.Forms y
  | define n x, s => ∃ y z p, s = .mk (.assign [y] ":=" [z]) p ∧ (Primary.name n).Forms y ∧ x.Forms z
  | call x m args, s => ∃ y p, s = .mk (.expr y) p ∧ (called x m args).Forms y

end Line

/-! ## Functions -/

/-- What a function gives: nothing, or a type in a package or a pointer to one. -/
inductive Result where
  | nothing
  | type (pointer : Bool) (package name : String)

namespace Result

/-- A type in a package. -/
def named (package name : String) : Primary :=
  .select (.name package) name

def row : Result → List Spelling
  | nothing => []
  | type false p n => [inLine .word p, sign ".", inLine .word n]
  | type true p n => [sign "*", inLine .word p, sign ".", inLine .word n]

def tree : Result → Option (List Field)
  | nothing => none
  | type false p n => some [.mk [] (named p n).tree none]
  | type true p n => some [.mk [] (.mk (.star (named p n).tree) .none) none]

/-- Whether the names are identifiers. -/
def isPlain : Result → Bool
  | nothing => true
  | type _ p n => isWord p && isWord n

/-- A signature has no parameters, and the result that was written. -/
def Forms : Result → Signature → Prop
  | nothing, s => s = .mk [] none
  | type false p n, s => ∃ x, s = .mk [] (some [.mk [] none x]) ∧ (named p n).Forms x
  | type true p n, s => ∃ x start, s = .mk [] (some [.mk [] none (.mk (.star x) start)]) ∧ (named p n).Forms x

end Result

/-- A function without parameters. -/
structure Routine where
  name : String
  result : Result
  body : List Line

/-- The closing brace of a block, on a line of its own. -/
def blockEnd : Spelling :=
  ⟨.symbol, "\x7d", true⟩

namespace Routine

/-- The tokens of a function behind a line break or not. -/
def row (newLine : Bool) (r : Routine) : List Spelling :=
  ⟨.keyword, "func", newLine⟩ :: inLine .word r.name :: sign "(" :: sign ")" ::
    (r.result.row ++ sign "\x7b" :: (Line.rows true r.body ++ [blockEnd]))

def tree (r : Routine) : FuncDecl :=
  ⟨none, ⟨r.name, .none⟩, .mk [] r.result.tree, some (.mk (r.body.map Line.tree) .none), .none⟩

/-- Whether names are identifiers and all expressions plain. -/
def isPlain (r : Routine) : Bool :=
  isWord r.name && r.result.isPlain && r.body.all Line.isPlain

/-- A function is what was written: it has no receiver and no types as parameters. -/
def Forms (r : Routine) (f : Func) : Prop :=
  ∃ name sig stmts p q, f = ⟨none, name, none, sig, some (.mk stmts p), q⟩ ∧ name.text = r.name ∧ r.result.Forms sig ∧
    List.Forall₂ Line.Forms r.body stmts

end Routine

/-! ## Sources -/

/-- An import as written: a name or none, and a literal. -/
structure Imported where
  name : Option String
  literal : String

namespace Imported

/-- The tokens of an import behind a line break or not. -/
def row (newLine : Bool) : Imported → List Spelling
  | ⟨none, literal⟩ => [⟨.literal .string, literal, newLine⟩]
  | ⟨some n, literal⟩ => [⟨.word, n, newLine⟩, inLine (.literal .string) literal]

/-- The tokens of imports, each on a line of its own but for the first. -/
def rows (newLine : Bool) : List Imported → List Spelling
  | [] => []
  | i :: is => i.row newLine ++ rows true is

def tree (i : Imported) : ImportSpec :=
  ⟨i.name.map .named, unquoted i.literal, .none⟩

/-- Whether a name is an identifier with a meaning, and the literal no punctuation. -/
def isPlain (i : Imported) : Bool :=
  i.name.all (fun n => isWord n && n != "_") && !([".", "(", ")"].contains i.literal)

/-- An import is what was written. -/
def Forms (i : Imported) (j : Import) : Prop :=
  j.name = i.name.map .named ∧ j.path = i.literal

end Imported

/-- What stands at top level: the name of the package, imports or a function. -/
inductive Part where
  | package (name : String)
  | importOne (spec : Imported)
  | imports (specs : List Imported)
  | routine (r : Routine)

namespace Part

/-- The tokens of a part behind a line break or not. -/
def row (newLine : Bool) : Part → List Spelling
  | package n => [⟨.keyword, "package", newLine⟩, inLine .word n]
  | importOne i => ⟨.keyword, "import", newLine⟩ :: i.row false
  | imports is => ⟨.keyword, "import", newLine⟩ :: sign "(" :: (Imported.rows true is ++ [⟨.symbol, ")", true⟩])
  | routine r => r.row newLine

/-- The tokens of parts, each on a line of its own but for the first. -/
def rows (newLine : Bool) : List Part → List Spelling
  | [] => []
  | p :: ps => p.row newLine ++ rows true ps

def tree : Part → TopLevel
  | package n => .package ⟨n, .none⟩
  | importOne i => .decl (.gen (.mk .importTok .none false [.imported i.tree]))
  | imports is => .decl (.gen (.mk .importTok .none true (is.map fun i => .imported i.tree)))
  | routine r => .decl (.func r.tree)

/-- Whether names are identifiers and all expressions plain. -/
def isPlain : Part → Bool
  | package n => isWord n
  | importOne i => i.isPlain
  | imports is => is.all Imported.isPlain
  | routine r => r.isPlain

/-- An entry at top level is what was written. -/
def Forms : Part → Item → Prop
  | package n, i => ∃ m, i = .package m ∧ m.text = n
  | importOne j, i => ∃ x p, i = .importOne x p ∧ j.Forms x
  | imports js, i => ∃ xs p, i = .imports xs p ∧ List.Forall₂ Imported.Forms js xs
  | routine r, i => ∃ f, i = .func f ∧ r.Forms f

end Part

end GoRebuild.Grammar
