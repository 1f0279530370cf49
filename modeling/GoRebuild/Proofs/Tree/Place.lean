import GoRebuild.Proofs.Tree.Shape

/-!
# Where the nodes of trees that come from a source stand

Some nodes have one place where they may stand, and some have none. `Expr.InPlace`, `Stmt.InPlace`, `GenDecl.InPlace`
and the rest state of a tree and of all its parts that each node stands where it may:

* nothing stands for source that could not be read;
* `x.(type)` stands only in the assignment or expression that a type switch is over (`Stmt.IsGuard`);
* clauses with cases stand only in the bodies of `switch` statements (`Stmt.CasesInPlace`), and clauses with
  communications only in those of `select` statements (`Stmt.CommsInPlace`);
* an element of an interface is one name with the type of a function, or has no name;
* an entry of a declaration stands behind its keyword;
* `*` is no operator before an operand.
-/

namespace GoRebuild

/-- One name with the type of a function, or no name. -/
def Field.isElement : Field → Bool
  | .mk [] _ _ | .mk [_] (.mk (.funcType _) _) _ => true
  | _ => false

/-- Whether an entry stands behind its keyword. -/
def Spec.fits : DeclToken → Spec → Bool
  | .importTok, .imported _ | .typeTok, .type _ _ _ => true
  | .constTok, .value _ _ _ | .varTok, .value _ _ _ => true
  | _, _ => false

mutual

def Expr.InPlace : Expr → Prop
  | .mk k _ => k.InPlace

def ExprKind.InPlace : ExprKind → Prop
  | .bad _ => False
  | .ident _ | .basicLit _ => True
  | .ellipsis t => Expr.OptionInPlace t
  | .funcLit t b => t.InPlace ∧ b.InPlace
  | .compositeLit t es => Expr.OptionInPlace t ∧ Expr.AllInPlace es
  | .paren x | .star x | .selector x _ | .chanType _ x => x.InPlace
  | .unary op x => op ≠ "*" ∧ x.InPlace
  | .index x y | .binary x _ y | .keyValue x y | .mapType x y => x.InPlace ∧ y.InPlace
  | .slice x low high max _ =>
    x.InPlace ∧ Expr.OptionInPlace low ∧ Expr.OptionInPlace high ∧ Expr.OptionInPlace max
  | .typeAssert x t => x.InPlace ∧ Expr.OptionInPlace t ∧ t.isSome
  | .call f as _ => f.InPlace ∧ Expr.AllInPlace as
  | .arrayType n t => Expr.OptionInPlace n ∧ t.InPlace
  | .structType fs => Field.AllInPlace fs
  | .funcType t => t.InPlace
  | .interfaceType ms => Field.AllInPlace ms ∧ ms.all Field.isElement

def Expr.OptionInPlace : Option Expr → Prop
  | none => True
  | some x => x.InPlace

def Expr.AllInPlace : List Expr → Prop
  | [] => True
  | x :: xs => x.InPlace ∧ Expr.AllInPlace xs

/-- The `x.(type)` that a type switch is over. -/
def Expr.IsGuard : Expr → Prop
  | .mk (.typeAssert x none) _ => x.InPlace
  | _ => False

def FuncType.InPlace : FuncType → Prop
  | .mk ps none => Field.AllInPlace ps
  | .mk ps (some rs) => Field.AllInPlace ps ∧ Field.AllInPlace rs

def Field.InPlace : Field → Prop
  | .mk _ t _ => t.InPlace

def Field.AllInPlace : List Field → Prop
  | [] => True
  | f :: fs => f.InPlace ∧ Field.AllInPlace fs

def Block.InPlace : Block → Prop
  | .mk ss _ => Stmt.AllInPlace ss

/-- The body of a `switch`. -/
def Block.CasesInPlace : Block → Prop
  | .mk ss _ => Stmt.CasesInPlace ss

/-- The body of a `select`. -/
def Block.CommsInPlace : Block → Prop
  | .mk ss _ => Stmt.CommsInPlace ss

/-- A statement that is no clause. -/
def Stmt.InPlace : Stmt → Prop
  | .mk k _ => k.InPlace

def Stmt.AllInPlace : List Stmt → Prop
  | [] => True
  | x :: xs => x.InPlace ∧ Stmt.AllInPlace xs

def Stmt.OptionInPlace : Option Stmt → Prop
  | none => True
  | some x => x.InPlace

/-- Clauses of a `switch`. -/
def Stmt.CasesInPlace : List Stmt → Prop
  | [] => True
  | .mk (.caseClause xs b) _ :: cs => Expr.AllInPlace xs ∧ Stmt.AllInPlace b ∧ Stmt.CasesInPlace cs
  | _ :: _ => False

/-- Clauses of a `select`. -/
def Stmt.CommsInPlace : List Stmt → Prop
  | [] => True
  | .mk (.commClause c b) _ :: cs => Stmt.OptionInPlace c ∧ Stmt.AllInPlace b ∧ Stmt.CommsInPlace cs
  | _ :: _ => False

/-- What a type switch is over: `x.(type)`, or the declaration of names for it. -/
def Stmt.IsGuard : Stmt → Prop
  | .mk (.expr x) _ => x.IsGuard
  | .mk (.assign l ":=" [x]) _ => Expr.AllInPlace l ∧ x.IsGuard
  | _ => False

def StmtKind.InPlace : StmtKind → Prop
  | .bad _ | .caseClause _ _ | .commClause _ _ => False
  | .empty | .branch _ _ => True
  | .decl d => d.InPlace
  | .labeled _ x => x.InPlace
  | .expr x | .incDec x _ | .goStmt x | .deferStmt x => x.InPlace
  | .send x y => x.InPlace ∧ y.InPlace
  | .assign l _ r => Expr.AllInPlace l ∧ Expr.AllInPlace r
  | .returnStmt rs => Expr.AllInPlace rs
  | .block b => b.InPlace
  | .ifStmt i c b e => Stmt.OptionInPlace i ∧ c.InPlace ∧ b.InPlace ∧ Stmt.OptionInPlace e
  | .switchStmt i t b => Stmt.OptionInPlace i ∧ Expr.OptionInPlace t ∧ b.CasesInPlace
  | .typeSwitch i a b => Stmt.OptionInPlace i ∧ a.IsGuard ∧ b.CasesInPlace
  | .selectStmt b => b.CommsInPlace
  | .forStmt i c p b =>
    Stmt.OptionInPlace i ∧ Expr.OptionInPlace c ∧ Stmt.OptionInPlace p ∧ b.InPlace
  | .rangeStmt k v _ x b => Expr.OptionInPlace k ∧ Expr.OptionInPlace v ∧ x.InPlace ∧ b.InPlace

def GenDecl.InPlace : GenDecl → Prop
  | .mk tok _ _ specs => Spec.AllInPlace specs ∧ specs.all (Spec.fits tok)

def Spec.InPlace : Spec → Prop
  | .imported _ => True
  | .value _ t vs => Expr.OptionInPlace t ∧ Expr.AllInPlace vs
  | .type _ _ t => t.InPlace

def Spec.AllInPlace : List Spec → Prop
  | [] => True
  | x :: xs => x.InPlace ∧ Spec.AllInPlace xs

end

def Field.ReceiverInPlace : Option (List Field) → Prop
  | none => True
  | some fs => Field.AllInPlace fs

def Block.OptionInPlace : Option Block → Prop
  | none => True
  | some b => b.InPlace

def FuncDecl.InPlace (d : FuncDecl) : Prop :=
  Field.ReceiverInPlace d.recv ∧ d.ty.InPlace ∧ Block.OptionInPlace d.body

def Decl.InPlace : Decl → Prop
  | .gen d => d.InPlace
  | .func d => d.InPlace

end GoRebuild
