import GoRebuild.Text.Escaped
import GoRebuild.Tree.Basic

/-!
# Building syntax trees by hand

* `Expr.ofName`, `Expr.literal`, `Expr.ofInt`, `Expr.ofString` : leaves, at no position;
* `Expr.select`, `Expr.apply`, `Expr.infixOp`, `Expr.prefixOp` : larger expressions, at the position of
  their first part;
* `Stmt.ofExpr`, `Stmt.assignment`, `Stmt.ofBlock`, `Stmt.giveBack` : statements.
-/

namespace GoRebuild
open Text

namespace Expr

def ofName (name : String) : Expr :=
  mk (.ident name) .none

def literal (kind : LitKind) (text : String) : Expr :=
  mk (.basicLit ⟨kind, text⟩) .none

/-- An integer in decimal. -/
def ofInt (n : Int) : Expr :=
  literal .int (toString n)

/-- A string, shown as `Escaped.display` shows it. -/
def ofString (s : String) : Expr :=
  literal .string (Escaped.display s)

/-- The expression at another position. -/
def at' (x : Expr) (p : Pos) : Expr :=
  mk x.kind p

/-- A member of an expression. -/
def select (x : Expr) (name : String) : Expr :=
  mk (.selector x ⟨name, x.pos⟩) x.pos

def apply (fn : Expr) (args : List Expr) : Expr :=
  mk (.call fn args false) fn.pos

/-- An operator between two expressions. -/
def infixOp (x : Expr) (op : String) (y : Expr) : Expr :=
  mk (.binary x op y) x.pos

/-- An operator before an expression. -/
def prefixOp (op : String) (x : Expr) : Expr :=
  mk (.unary op x) x.pos

end Expr

namespace Stmt

def ofExpr (x : Expr) : Stmt :=
  mk (.expr x) x.pos

/-- An assignment, at the position of its first left side. -/
def assignment (lhs : List Expr) (tok : String) (rhs : List Expr) : Stmt :=
  mk (.assign lhs tok rhs) ((lhs.head?.map Expr.pos).getD .none)

def ofBlock (stmts : List Stmt) : Stmt :=
  mk (.block (.mk stmts .none)) .none

def giveBack (results : List Expr) : Stmt :=
  mk (.returnStmt results) .none

end Stmt

end GoRebuild
