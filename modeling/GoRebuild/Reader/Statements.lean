import GoRebuild.Reader.Expressions

/-!
# Reading statements and declarations

* `Readers.spec`, `Readers.genDecl` : declarations of constants, variables and types;
* `Readers.ifRule`, `Readers.forRule`, `Readers.switchRule`, `Readers.typeSwitchRule`, `Readers.selectRule` : statements
  with blocks;
* `Readers.stmtKindRule` : a statement;
* `Readers.upTo` : the readers of trees up to some height, by the rules.

Some nodes are read before others that come earlier in the text, which shows where two of them fail: the body of a loop
before its header, `else` before its `if`, clauses before the header of a `switch`.
-/

namespace GoRebuild
open Parse (Node)
open Parse.Node

namespace Readers
variable (r : Readers)

/-! ## Declarations -/

/-- An entry of a declaration. -/
def spec (t : Node) : Reading Spec :=
  match t.kind with
  | "const_spec" | "var_spec" => do
    let names := (t.entriesIn "name").map ident
    let ty ← r.optBoxed t "type"
    match t.child? "value" with
    | some value => return .value names ty (← r.exprList value)
    | none => return .value names ty []
  | "type_spec" | "type_alias" => do
    t.rejectGenerics
    return .type (← t.require "name").ident (t.kind == "type_alias") (← r.boxed t "type")
  | _ => t.unsupported

/-- The keyword of a declaration, by the kind of its node. -/
def declToken (t : Node) : Reading DeclToken :=
  match t.kind with
  | "const_declaration" => pure .constTok
  | "var_declaration" => pure .varTok
  | "type_declaration" => pure .typeTok
  | _ => throw (.unexpectedNode "declaration" t.kind t.pos)

/-- Whether a node is a list of entries, by the end of the name of its kind. -/
def isSpecList (t : Node) : Bool :=
  "_spec_list".toList.isSuffixOf t.kind.toList

/-- A declaration of constants, variables or types. -/
def genDecl (t : Node) : Reading GenDecl := do
  let tok ← declToken t
  let rows ← t.entries.mapM fun c =>
    if isSpecList c then c.entries.mapM r.spec
    else return [← r.spec c]
  return .mk tok t.pos (t.hasToken "(" || t.entries.any isSpecList) rows.flatten

/-! ## Statements with blocks -/

/-- What a clause of a `select` receives: the value comes before the left side. -/
def receiveRule (t : Node) : Reading StmtKind := do
  let right ← r.boxed t "right"
  match t.child? "left" with
  | some left => return .assign (← r.exprList left) (if t.hasToken ":=" then ":=" else "=") [right]
  | none => return .expr right

def ifRule (t : Node) : Reading StmtKind := do
  let els ← r.optStmt t "alternative"
  let init ← r.optStmt t "initializer"
  let cond ← r.boxed t "condition"
  let body ← r.block (← t.require "consequence")
  return .ifStmt init cond body els

/-- The variables of a `range` clause and the operator behind them. More than two are read, and left out. -/
def rangeVars (t : Node) : Reading (Option Expr × Option Expr × Option String) :=
  match t.child? "left" with
  | some left => do
    let names ← r.exprList left
    return (names.head?, names.tail.head?, some (if t.hasToken ":=" then ":=" else "="))
  | none => pure (none, none, none)

/-- A loop with its body. -/
def loopHeader (t : Node) (body : Block) : Reading StmtKind :=
  match t.kind with
  | "for_clause" => do
    let init ← r.optStmt t "initializer"
    let cond ← r.optBoxed t "condition"
    let post ← r.optStmt t "update"
    return .forStmt init cond post body
  | "range_clause" => do
    let (key, value, tok) ← r.rangeVars t
    return .rangeStmt key value tok (← r.boxed t "right") body
  | _ => return .forStmt none (some (← r.expr t)) none body

/-- A loop: the header is the child that is not the body. -/
def forRule (t : Node) : Reading StmtKind := do
  let bodyNode ← t.require "body"
  let body ← r.block bodyNode
  match t.entries.find? (·.nodeId != bodyNode.nodeId) with
  | none => return .forStmt none none none body
  | some header => r.loopHeader header body

def defaultClause (t : Node) : Reading Stmt :=
  return .mk (.caseClause [] (← r.stmtList t [])) t.pos

/-- A clause of a `switch`, if the child is one. -/
def caseClause (t : Node) : Reading (Option Stmt) :=
  match t.kind with
  | "expression_case" => do
    let value ← t.require "value"
    let list ← r.exprList value
    let body ← r.stmtList t [value.nodeId]
    return some (.mk (.caseClause list body) t.pos)
  | "default_case" => return some (← r.defaultClause t)
  | _ => pure none

def switchRule (t : Node) : Reading StmtKind := do
  let clauses ← t.entries.mapM r.caseClause
  let init ← r.optStmt t "initializer"
  let tag ← r.optBoxed t "value"
  return .switchStmt init tag (.mk (clauses.filterMap id) t.pos)

/-- A clause of a `switch` over types, if the child is one. -/
def typeClause (t : Node) : Reading (Option Stmt) :=
  match t.kind with
  | "type_case" => do
    let types := t.entriesIn "type"
    let list ← types.mapM r.expr
    let body ← r.stmtList t (types.map nodeId)
    return some (.mk (.caseClause list body) t.pos)
  | "default_case" => return some (← r.defaultClause t)
  | _ => pure none

/-- What a `switch` over types assigns, or is over. -/
def typeSwitchAssign (t value : Node) : Reading Stmt := do
  let asserted : Expr := .mk (.typeAssert (← r.expr value) none) value.pos
  match t.child? "alias" with
  | some names => return .mk (.assign (← r.exprList names) ":=" [asserted]) names.pos
  | none => return .mk (.expr asserted) value.pos

def typeSwitchRule (t : Node) : Reading StmtKind := do
  let assign ← r.typeSwitchAssign t (← t.require "value")
  let clauses ← t.entries.mapM r.typeClause
  let init ← r.optStmt t "initializer"
  return .typeSwitch init assign (.mk (clauses.filterMap id) t.pos)

/-- A clause of a `select`, if the child is one. -/
def commClause (t : Node) : Reading (Option Stmt) :=
  match t.kind with
  | "communication_case" => do
    let comm ← t.require "communication"
    let c ← r.stmt comm
    let body ← r.stmtList t [comm.nodeId]
    return some (.mk (.commClause (some c) body) t.pos)
  | "default_case" => return some (.mk (.commClause none (← r.stmtList t [])) t.pos)
  | _ => pure none

def selectRule (t : Node) : Reading StmtKind := do
  let clauses ← t.entries.mapM r.commClause
  return .selectStmt (.mk (clauses.filterMap id) t.pos)

/-! ## Statements -/

/-- A label: its statement is the child that is not the label. -/
def labeledRule (t : Node) : Reading StmtKind := do
  let label ← t.require "label"
  match t.entries.find? (·.nodeId != label.nodeId) with
  | some c => return .labeled label.ident (← r.stmt c)
  | none => return .labeled label.ident (.mk .empty t.pos)

/-- A jump, to the label that is its first child. -/
def branchRule (t : Node) (tok : BranchTok) : StmtKind :=
  .branch tok (t.entries.head?.map ident)

/-- A statement, by the kind of its node. -/
def stmtKindRule (t : Node) : Reading StmtKind :=
  match t.kind with
  | "const_declaration" | "var_declaration" | "type_declaration" => return .decl (← r.genDecl t)
  | "expression_statement" => return .expr (← r.expr (← t.firstEntry))
  | "send_statement" => return .send (← r.boxed t "channel") (← r.boxed t "value")
  | "receive_statement" => r.receiveRule t
  | "inc_statement" => return .incDec (← r.expr (← t.firstEntry)) .inc
  | "dec_statement" => return .incDec (← r.expr (← t.firstEntry)) .dec
  | "assignment_statement" =>
    return .assign (← r.exprList (← t.require "left")) (← t.require "operator").text
      (← r.exprList (← t.require "right"))
  | "short_var_declaration" =>
    return .assign (← r.exprList (← t.require "left")) ":=" (← r.exprList (← t.require "right"))
  | "return_statement" =>
    match t.entries.head? with
    | some list => return .returnStmt (← r.exprList list)
    | none => return .returnStmt []
  | "go_statement" => return .goStmt (← r.expr (← t.firstEntry))
  | "defer_statement" => return .deferStmt (← r.expr (← t.firstEntry))
  | "labeled_statement" | "empty_labeled_statement" => r.labeledRule t
  | "fallthrough_statement" => return .branch .fallthroughTok none
  | "break_statement" => return branchRule t .breakTok
  | "continue_statement" => return branchRule t .continueTok
  | "goto_statement" => return branchRule t .gotoTok
  | "block" => return .block (← r.block t)
  | "empty_statement" => return .empty
  | "if_statement" => r.ifRule t
  | "for_statement" => r.forRule t
  | "expression_switch_statement" => r.switchRule t
  | "type_switch_statement" => r.typeSwitchRule t
  | "select_statement" => r.selectRule t
  | _ => t.unsupported

/-! ## The readers of trees -/

/-- What reads nothing: no tree has so little height. -/
def unread : Readers :=
  ⟨unsupported, unsupported, unsupported, unsupported⟩

/-- What reads nodes that are less high than a bound, nested no deeper than a limit. -/
def upTo (limit : Nat) : Nat → Readers
  | 0 => unread
  | n + 1 =>
    let r := upTo limit n
    { expr := fun t => t.nested limit do return .mk (← r.exprKindRule t) t.pos
      exprKind := r.exprKindRule
      stmt := fun t => t.nested limit do return .mk (← r.stmtKindRule t) t.pos
      stmts := fun t => r.stmtList t [] }

end Readers

end GoRebuild
