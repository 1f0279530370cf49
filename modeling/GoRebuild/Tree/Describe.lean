import GoRebuild.Tree.Basic

/-!
# Names of node kinds

* `Expr.kindName`, `Stmt.kindName` : what a node is called in messages;
* `BasicLit.isRawString` : a string literal between backquotes.
-/

namespace GoRebuild

/-- What an expression or type is called. -/
def Expr.kindName (x : Expr) : String :=
  match x.kind with
  | .bad k => k
  | .ident _ => "identifier"
  | .ellipsis _ => "ellipsis"
  | .basicLit _ => "literal"
  | .funcLit _ _ => "function literal"
  | .compositeLit _ _ => "composite literal"
  | .paren _ => "parenthesized expression"
  | .selector _ _ => "selector"
  | .index _ _ => "index expression"
  | .slice _ _ _ _ _ => "slice expression"
  | .typeAssert _ _ => "type assertion"
  | .call _ _ _ => "call"
  | .star _ => "star expression"
  | .unary _ _ => "unary expression"
  | .binary _ _ _ => "binary expression"
  | .keyValue _ _ => "key-value expression"
  | .arrayType _ _ => "array type"
  | .structType _ => "struct type"
  | .funcType _ => "function type"
  | .interfaceType _ => "interface type"
  | .mapType _ _ => "map type"
  | .chanType _ _ => "channel type"

/-- What a statement is called. -/
def Stmt.kindName (s : Stmt) : String :=
  match s.kind with
  | .bad k => k
  | .decl _ => "declaration statement"
  | .empty => "empty statement"
  | .labeled _ _ => "labeled statement"
  | .expr _ => "expression statement"
  | .send _ _ => "send statement"
  | .incDec _ _ => "inc/dec statement"
  | .assign _ _ _ => "assignment"
  | .goStmt _ => "go statement"
  | .deferStmt _ => "defer statement"
  | .returnStmt _ => "return statement"
  | .branch _ _ => "branch statement"
  | .block _ => "block"
  | .ifStmt _ _ _ _ => "if statement"
  | .caseClause _ _ => "case clause"
  | .switchStmt _ _ _ => "switch statement"
  | .typeSwitch _ _ _ => "type switch statement"
  | .commClause _ _ => "comm clause"
  | .selectStmt _ => "select statement"
  | .forStmt _ _ _ _ => "for statement"
  | .rangeStmt _ _ _ _ _ => "range statement"

/-- A string literal between backquotes. -/
def BasicLit.isRawString (l : BasicLit) : Bool :=
  l.kind == .string && l.value.toList.head? == some '\x60'

end GoRebuild
