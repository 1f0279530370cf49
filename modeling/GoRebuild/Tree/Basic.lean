/-!
# Syntax trees of source files

The tree of a Go file without generics. Expressions and types are one kind of node, since either can
stand where the other does: `make([]int, 3)`, `[]byte(s)`.

* `Pos` : where a node starts: byte offset, line and column, the latter two counted from one;
* `Expr`, `ExprKind` : an expression or type;
* `Stmt`, `StmtKind` : a statement, also a clause of a `switch` or `select`;
* `GenDecl`, `FuncDecl`, `Decl` : declarations;
* `File` : a package name, the imports and the declarations.
-/

namespace GoRebuild

/-- Where a node starts. Offset and column count bytes; line and column begin at one. -/
structure Pos where
  offset : UInt32
  line : UInt32
  column : UInt32
  deriving DecidableEq, Repr

namespace Pos

/-- The position of nodes that come from no source. -/
def none : Pos := ⟨0, 0, 0⟩

/-- Line and column, as messages show them. -/
def display (p : Pos) : String :=
  toString p.line.toNat ++ ":" ++ toString p.column.toNat

end Pos

structure Ident where
  name : String
  pos : Pos
  deriving DecidableEq, Repr

/-- The local name before an import path. -/
inductive ImportName where
  /-- `import f "fmt"` -/
  | named (name : String)
  /-- `import . "fmt"` -/
  | dot
  /-- `import _ "embed"`: for its side effects only -/
  | blank
  deriving DecidableEq, Repr

structure ImportSpec where
  name : Option ImportName
  path : String
  pos : Pos
  deriving DecidableEq, Repr

/-- The keyword of a general declaration. -/
inductive DeclToken where
  | importTok | constTok | typeTok | varTok
  deriving DecidableEq, Repr

def DeclToken.text : DeclToken → String
  | importTok => "import"
  | constTok => "const"
  | typeTok => "type"
  | varTok => "var"

/-- The kinds of literals. -/
inductive LitKind where
  | int | float | imag | char | string
  deriving DecidableEq, Repr

/-- A literal as written, quotes and escapes included. -/
structure BasicLit where
  kind : LitKind
  value : String
  deriving DecidableEq, Repr

/-- The direction of a channel: `chan T`, `chan<- T`, `<-chan T`. -/
inductive ChanDir where
  | both | send | recv
  deriving DecidableEq, Repr

/-- `++` or `--`. -/
inductive IncDec where
  | inc | dec
  deriving DecidableEq, Repr

def IncDec.text : IncDec → String
  | inc => "++"
  | dec => "--"

/-- The keyword of a branch statement. -/
inductive BranchTok where
  | breakTok | continueTok | gotoTok | fallthroughTok
  deriving DecidableEq, Repr

mutual

/-- An expression or type. -/
inductive Expr where
  | mk (kind : ExprKind) (pos : Pos)

/-- The kinds of expressions and types. -/
inductive ExprKind where
  /-- stands for source that could not be read -/
  | bad (kind : String)
  | ident (name : String)
  /-- `...T` in a parameter list, `...` as the length of an array -/
  | ellipsis (elt : Option Expr)
  | basicLit (lit : BasicLit)
  | funcLit (ty : FuncType) (body : Block)
  /-- `T{a, b}`; the type is absent where a literal inside another leaves it out -/
  | compositeLit (ty : Option Expr) (elts : List Expr)
  | paren (x : Expr)
  | selector (x : Expr) (sel : Ident)
  | index (x index : Expr)
  /-- `x[low:high]`, and `x[low:high:max]` if `slice3` holds -/
  | slice (x : Expr) (low high max : Option Expr) (slice3 : Bool)
  /-- `x.(T)`; without a type the `x.(type)` of a type switch -/
  | typeAssert (x : Expr) (ty : Option Expr)
  /-- `f(a, b)`; the last argument is spread if `ellipsis` holds -/
  | call (fn : Expr) (args : List Expr) (ellipsis : Bool)
  | star (x : Expr)
  | unary (op : String) (x : Expr)
  | binary (x : Expr) (op : String) (y : Expr)
  | keyValue (key value : Expr)
  /-- `[n]T`, and `[]T` without a length -/
  | arrayType (len : Option Expr) (elt : Expr)
  | structType (fields : List Field)
  | funcType (ty : FuncType)
  | interfaceType (methods : List Field)
  | mapType (key value : Expr)
  | chanType (dir : ChanDir) (value : Expr)

/-- Parameters and results of a function. -/
inductive FuncType where
  | mk (params : List Field) (results : Option (List Field))

/-- Names that share a type: a parameter, a struct field, a method or an embedded type. -/
inductive Field where
  | mk (names : List Ident) (ty : Expr) (tag : Option BasicLit)

/-- Statements in braces. -/
inductive Block where
  | mk (stmts : List Stmt) (pos : Pos)

inductive Stmt where
  | mk (kind : StmtKind) (pos : Pos)

/-- The kinds of statements. -/
inductive StmtKind where
  /-- stands for source that could not be read -/
  | bad (kind : String)
  | decl (decl : GenDecl)
  | empty
  | labeled (label : Ident) (stmt : Stmt)
  | expr (x : Expr)
  | send (chan value : Expr)
  | incDec (x : Expr) (tok : IncDec)
  /-- `=`, `:=` and the assignments with an operator -/
  | assign (lhs : List Expr) (tok : String) (rhs : List Expr)
  | goStmt (call : Expr)
  | deferStmt (call : Expr)
  | returnStmt (results : List Expr)
  | branch (tok : BranchTok) (label : Option Ident)
  | block (block : Block)
  | ifStmt (init : Option Stmt) (cond : Expr) (body : Block) (els : Option Stmt)
  /-- `case a, b:`; without expressions `default:` -/
  | caseClause (list : List Expr) (body : List Stmt)
  | switchStmt (init : Option Stmt) (tag : Option Expr) (body : Block)
  | typeSwitch (init : Option Stmt) (assign : Stmt) (body : Block)
  /-- a clause of a `select`; without a communication `default:` -/
  | commClause (comm : Option Stmt) (body : List Stmt)
  | selectStmt (body : Block)
  | forStmt (init : Option Stmt) (cond : Option Expr) (post : Option Stmt) (body : Block)
  /-- `for k, v := range x`; the token is absent from `for range x` -/
  | rangeStmt (key value : Option Expr) (tok : Option String) (x : Expr) (body : Block)

/-- A declaration with a keyword, in parentheses if `grouped` holds. -/
inductive GenDecl where
  | mk (tok : DeclToken) (pos : Pos) (grouped : Bool) (specs : List Spec)

/-- One entry of a declaration with a keyword. -/
inductive Spec where
  | imported (spec : ImportSpec)
  | value (names : List Ident) (ty : Option Expr) (values : List Expr)
  | type (name : Ident) (aliased : Bool) (ty : Expr)

end

/-- A function or method; the body is absent where it is given elsewhere. -/
structure FuncDecl where
  recv : Option (List Field)
  name : Ident
  ty : FuncType
  body : Option Block
  pos : Pos

inductive Decl where
  | gen (decl : GenDecl)
  | func (decl : FuncDecl)

structure File where
  package : Ident
  /-- All imports, in order. -/
  imports : List ImportSpec
  /-- All declarations in order, those of imports among them. -/
  decls : List Decl

/-! ## Projections -/

def Expr.kind : Expr → ExprKind
  | mk k _ => k

def Expr.pos : Expr → Pos
  | mk _ p => p

def Stmt.kind : Stmt → StmtKind
  | mk k _ => k

def Stmt.pos : Stmt → Pos
  | mk _ p => p

def Block.stmts : Block → List Stmt
  | mk ss _ => ss

def FuncType.params : FuncType → List Field
  | mk ps _ => ps

def FuncType.results : FuncType → Option (List Field)
  | mk _ rs => rs

def Field.names : Field → List Ident
  | mk ns _ _ => ns

def Field.ty : Field → Expr
  | mk _ t _ => t

def Field.tag : Field → Option BasicLit
  | mk _ _ t => t

def GenDecl.tok : GenDecl → DeclToken
  | mk t _ _ _ => t

def GenDecl.pos : GenDecl → Pos
  | mk _ p _ _ => p

def GenDecl.specs : GenDecl → List Spec
  | mk _ _ _ ss => ss

def Decl.pos : Decl → Pos
  | gen d => d.pos
  | func d => d.pos

/-- The name at the bottom of a type of names, pointers and parentheses. -/
def Expr.baseName? : Expr → Option String
  | mk (.star x) _ => x.baseName?
  | mk (.paren x) _ => x.baseName?
  | mk (.ident n) _ => some n
  | _ => none

/-- The type name of a method's receiver: that of its first field, pointers and parentheses dropped. -/
def FuncDecl.receiver? (d : FuncDecl) : Option String :=
  match d.recv with
  | some (f :: _) => f.ty.baseName?
  | _ => none

end GoRebuild
