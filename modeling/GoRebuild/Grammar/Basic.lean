import GoRebuild.Lexical.Token
import GoRebuild.Tree.Basic

/-!
# Parse trees

What the grammar derives from a row of tokens. Nodes know where they start in that row, not where in the
text; types and expressions are one kind of node. Generic constructs are recognised and not kept.

* `Node`, `NodeKind` : an expression or type;
* `Stmt`, `StmtKind`, `Conditional`, `Else`, `LoopHeader`, `Clause`, `CommClause` : statements;
* `Decl`, `ValueSpec`, `TypeSpec` : declarations that may stand in a function;
* `Item` : what stands at top level.

The types leave no room for shapes that the grammar has not: `else` is followed by a block or an `if`, a
declaration without parentheses has one entry, a `range` with an operator has a variable.
-/

namespace GoRebuild.Grammar
open Lexical (Place)

/-- A name and where it stands. -/
structure Name where
  text : String
  place : Place
  deriving DecidableEq, Repr

/-- The operators before an operand, `*` apart. -/
inductive PrefixOp where
  | plus | minus | not | complement | address | receive
  deriving DecidableEq, Repr

def PrefixOp.text : PrefixOp → String
  | plus => "+"
  | minus => "-"
  | not => "!"
  | complement => "^"
  | address => "&"
  | receive => "<-"

/-- The generic constructs. -/
inductive Generic where
  | typeParameters
  /-- `f[T, U](x)` -/
  | typeArguments
  /-- `T[int]` as a type -/
  | genericType
  /-- `f[T, U]` as an expression -/
  | instantiation
  /-- `~T` -/
  | approximation
  /-- `A | B` in an interface -/
  | union
  deriving DecidableEq, Repr

def Generic.kindName : Generic → String
  | typeParameters => "type_parameter_list"
  | typeArguments => "type_arguments"
  | genericType => "generic_type"
  | instantiation => "type_instantiation_expression"
  | approximation => "negated_type"
  | union => "type_elem"

/-- The keyword of a declaration of values. -/
inductive ValueTok where
  | constTok | varTok
  deriving DecidableEq, Repr

/-- The operators before a `range` or a received value. -/
inductive AssignTok where
  | assign | define
  deriving DecidableEq, Repr

def AssignTok.text : AssignTok → String
  | assign => "="
  | define => ":="

/-- A jump, with a label where it has one. -/
inductive Jump where
  | breakOut (label : Option Name)
  | continueAt (label : Option Name)
  | goto (label : Name)
  | fallthrough
  deriving DecidableEq, Repr

def Jump.tok : Jump → BranchTok
  | breakOut _ => .breakTok
  | continueAt _ => .continueTok
  | goto _ => .gotoTok
  | fallthrough => .fallthroughTok

def Jump.label : Jump → Option Name
  | breakOut l | continueAt l => l
  | goto l => some l
  | fallthrough => none

mutual

/-- An expression or type, and where it starts. -/
inductive Node where
  | mk (kind : NodeKind) (start : Place)

/-- The kinds of expressions and types. -/
inductive NodeKind where
  | name (text : String)
  | literal (lit : BasicLit)
  | paren (x : Node)
  | select (x : Node) (member : Name)
  | index (x i : Node)
  | slice (x : Node) (low high : Option Node)
  | slice3 (x : Node) (low : Option Node) (high max : Node)
  | assert (x ty : Node)
  | call (fn : Node) (args : List Arg)
  /-- a call whose callee can only be a type -/
  | convert (ty x : Node)
  /-- a pointer type or what a pointer points to -/
  | star (x : Node)
  | unary (op : PrefixOp) (x : Node)
  | binary (x : Node) (op : String) (y : Node)
  | composite (ty : Node) (elems : List Node)
  /-- elements in braces, inside another such list -/
  | braces (elems : List Node)
  | keyed (key value : Node)
  | func (sig : Signature) (body : Block)
  | array (len elt : Node)
  /-- `[...]T` -/
  | openArray (elt : Node)
  | sliceOf (elt : Node)
  | struct (members : List Member)
  | interface (elems : List Element)
  | map (key value : Node)
  | chan (dir : ChanDir) (value : Node)
  | funcType (sig : Signature)
  /-- a generic construct, refused at a place of its own -/
  | generic (form : Generic) (place : Place)

/-- An argument of a call. -/
inductive Arg where
  | plain (x : Node)
  /-- `x...` -/
  | spread (x : Node)

/-- Parameters and results. A result without parentheses is a list of one. -/
inductive Signature where
  | mk (params : List Param) (results : Option (List Param))

/-- Parameters that share a type, the dots of a variadic one before it. -/
inductive Param where
  | mk (names : List Name) (dots : Option Place) (ty : Node)

/-- An entry of a struct. -/
inductive Member where
  | named (name : Name) (more : List Name) (ty : Node) (tag : Option String)
  | embedded (star : Option Place) (ty : Node) (tag : Option String)

/-- An entry of an interface. -/
inductive Element where
  | method (name : Name) (sig : Signature)
  | embedded (ty : Node)
  | union (start : Place)

/-- Statements in braces. -/
inductive Block where
  | mk (stmts : List Stmt) (start : Place)

inductive Stmt where
  | mk (kind : StmtKind) (start : Place)

/-- The kinds of statements. -/
inductive StmtKind where
  | decl (d : Decl)
  | expr (x : Node)
  | send (ch value : Node)
  | step (x : Node) (tok : IncDec)
  | assign (left : List Node) (op : String) (right : List Node)
  /-- an assignment that a clause of a `select` waits for -/
  | receive (left : List Node) (op : AssignTok) (right : Node)
  | returnStmt (results : List Node)
  | goStmt (x : Node)
  | deferStmt (x : Node)
  /-- a label, which at the end of a block may stand alone -/
  | labeled (label : Name) (stmt : Option Stmt)
  | branch (jump : Jump)
  | block (b : Block)
  | empty
  | conditional (c : Conditional)
  | loop (header : LoopHeader) (body : Block)
  | switch (init : Option Stmt) (tag : Option Node) (clauses : List Clause)
  /-- `switch a := x.(type)`; without an assignment there are no names -/
  | typeSwitch (init : Option Stmt) (names : List Node) (value : Node) (clauses : List Clause)
  | select (clauses : List CommClause)

/-- An `if` statement, and where it starts. -/
inductive Conditional where
  | mk (init : Option Stmt) (cond : Node) (body : Block) (els : Option Else) (start : Place)

/-- What follows `else`. -/
inductive Else where
  | block (b : Block)
  | chain (c : Conditional)

/-- What stands between `for` and the body. -/
inductive LoopHeader where
  | forever
  | while (cond : Node)
  | steps (init : Option Stmt) (cond : Option Node) (post : Option Stmt)
  | over (x : Node)
  | assigning (first : Node) (more : List Node) (op : AssignTok) (x : Node)

/-- A clause of a `switch`. -/
inductive Clause where
  | case (first : Node) (more : List Node) (body : List Stmt) (start : Place)
  | otherwise (body : List Stmt) (start : Place)

/-- A clause of a `select`, without a communication for `default`. -/
inductive CommClause where
  | mk (comm : Option Stmt) (body : List Stmt) (start : Place)

/-- A declaration of constants, variables or types: one entry, or entries in parentheses. -/
inductive Decl where
  | value (tok : ValueTok) (spec : ValueSpec) (start : Place)
  | values (tok : ValueTok) (specs : List ValueSpec) (start : Place)
  | type (spec : TypeSpec) (start : Place)
  | types (specs : List TypeSpec) (start : Place)

/-- Names with a type or values. -/
inductive ValueSpec where
  | mk (name : Name) (more : List Name) (ty : Option Node) (values : List Node)

/-- A type and its name; `params` is where its type parameters start. -/
inductive TypeSpec where
  | mk (name : Name) (params : Option Place) (aliased : Bool) (ty : Node)

end

/-- An import; the path is a literal as written. -/
structure Import where
  name : Option ImportName
  path : String
  start : Place
  deriving DecidableEq, Repr

/-- A function or method; `typeParams` is where its type parameters start. -/
structure Func where
  recv : Option (List Param)
  name : Name
  typeParams : Option Place
  sig : Signature
  body : Option Block
  start : Place

/-- What stands at top level. -/
inductive Item where
  | package (name : Name)
  | importOne (spec : Import) (start : Place)
  | imports (specs : List Import) (start : Place)
  | func (f : Func)
  | stmt (s : Stmt)

/-! ## Projections -/

def Node.kind : Node → NodeKind
  | mk k _ => k

def Node.start : Node → Place
  | mk _ p => p

def Stmt.kind : Stmt → StmtKind
  | mk k _ => k

def Stmt.start : Stmt → Place
  | mk _ p => p

def Decl.start : Decl → Place
  | value _ _ p => p
  | values _ _ p => p
  | type _ p => p
  | types _ p => p

def Arg.start : Arg → Place
  | .plain x | .spread x => x.start

/-- Where a parameter starts: at its first name, at its dots or at its type. -/
def Param.start : Param → Place
  | .mk (n :: _) _ _ => n.place
  | .mk [] (some dots) _ => dots
  | .mk [] none t => t.start

def Conditional.start : Conditional → Place
  | mk _ _ _ _ p => p

/-- The name as a node. -/
def Name.node (n : Name) : Node :=
  .mk (.name n.text) n.place

/-- A generic construct that starts at a place of its own. -/
def Node.refused (form : Generic) (start : Place) : Node :=
  .mk (.generic form start) start

/-- Whether a node is a generic construct. -/
def Node.isGeneric : Node → Bool
  | mk (.generic _ _) _ => true
  | _ => false

/-- The keyword in a syntax tree. -/
def ValueTok.declToken : ValueTok → DeclToken
  | constTok => .constTok
  | varTok => .varTok

def ValueTok.declKind : ValueTok → String
  | constTok => "const_declaration"
  | varTok => "var_declaration"

def ValueTok.specKind : ValueTok → String
  | constTok => "const_spec"
  | varTok => "var_spec"

/-- The construct that a statement is, as messages show it. -/
def StmtKind.kindName : StmtKind → String
  | decl (.value .constTok _ _) | decl (.values .constTok _ _) => "const_declaration"
  | decl (.value .varTok _ _) | decl (.values .varTok _ _) => "var_declaration"
  | decl _ => "type_declaration"
  | expr _ => "expression_statement"
  | send _ _ => "send_statement"
  | step _ .inc => "inc_statement"
  | step _ .dec => "dec_statement"
  | assign _ op _ => if op = ":=" then "short_var_declaration" else "assignment_statement"
  | receive _ _ _ => "receive_statement"
  | returnStmt _ => "return_statement"
  | goStmt _ => "go_statement"
  | deferStmt _ => "defer_statement"
  | labeled _ _ => "labeled_statement"
  | branch (.breakOut _) => "break_statement"
  | branch (.continueAt _) => "continue_statement"
  | branch (.goto _) => "goto_statement"
  | branch .fallthrough => "fallthrough_statement"
  | block _ => "block"
  | empty => "empty_statement"
  | conditional _ => "if_statement"
  | loop _ _ => "for_statement"
  | switch _ _ _ => "expression_switch_statement"
  | typeSwitch _ _ _ _ => "type_switch_statement"
  | select _ => "select_statement"

end GoRebuild.Grammar
