import GoRebuild.Tree.Basic

/-!
# Equality of syntax trees

Two trees are compared part by part, and positions by a test that is given.

* `Expr.sameBy`, `Stmt.sameBy`, `Decl.sameBy`, `File.sameBy` : equality up to that test of positions;
* `Expr.same`, `Stmt.same`, `Decl.same`, `File.same` : equality of the whole trees;
* `Expr.alike`, `Stmt.alike`, `Decl.alike`, `File.alike` : equality wherever the nodes stand.
-/

namespace GoRebuild

/-- Both absent, or both present and alike. -/
def sameOption {α : Type} (f : α → α → Bool) : Option α → Option α → Bool
  | none, none => true
  | some a, some b => f a b
  | _, _ => false

/-- As long as each other, with elements alike in order. -/
def sameList {α : Type} (f : α → α → Bool) : List α → List α → Bool
  | [], [] => true
  | a :: as, b :: bs => f a b && sameList f as bs
  | _, _ => false

section
variable (p : Pos → Pos → Bool)

/-- Equal names at matching positions. -/
def Ident.sameBy (a b : Ident) : Bool :=
  a.name == b.name && p a.pos b.pos

/-- Equal imports at matching positions. -/
def ImportSpec.sameBy (a b : ImportSpec) : Bool :=
  a.name == b.name && a.path == b.path && p a.pos b.pos

mutual

/-- Equal expressions up to positions. -/
def Expr.sameBy : Expr → Expr → Bool
  | .mk k q, .mk k' q' => k.sameBy k' && p q q'
termination_by structural x => x

def ExprKind.sameBy : ExprKind → ExprKind → Bool
  | .bad k, b => match b with | .bad k' => k == k' | _ => false
  | .ident n, b => match b with | .ident n' => n == n' | _ => false
  | .ellipsis e, b => match b with | .ellipsis e' => Expr.sameOption e e' | _ => false
  | .basicLit l, b => match b with | .basicLit l' => l == l' | _ => false
  | .funcLit t s, b => match b with
    | .funcLit t' s' => t.sameBy t' && s.sameBy s'
    | _ => false
  | .compositeLit t es, b => match b with
    | .compositeLit t' es' => Expr.sameOption t t' && Expr.sameList es es'
    | _ => false
  | .paren x, b => match b with | .paren x' => x.sameBy x' | _ => false
  | .selector x s, b => match b with
    | .selector x' s' => x.sameBy x' && Ident.sameBy p s s'
    | _ => false
  | .index x i, b => match b with | .index x' i' => x.sameBy x' && i.sameBy i' | _ => false
  | .slice x l h m s, b => match b with
    | .slice x' l' h' m' s' => x.sameBy x' && Expr.sameOption l l' && Expr.sameOption h h' &&
        Expr.sameOption m m' && s == s'
    | _ => false
  | .typeAssert x t, b => match b with
    | .typeAssert x' t' => x.sameBy x' && Expr.sameOption t t'
    | _ => false
  | .call f as e, b => match b with
    | .call f' as' e' => f.sameBy f' && Expr.sameList as as' && e == e'
    | _ => false
  | .star x, b => match b with | .star x' => x.sameBy x' | _ => false
  | .unary o x, b => match b with | .unary o' x' => o == o' && x.sameBy x' | _ => false
  | .binary x o y, b => match b with
    | .binary x' o' y' => x.sameBy x' && o == o' && y.sameBy y'
    | _ => false
  | .keyValue k v, b => match b with
    | .keyValue k' v' => k.sameBy k' && v.sameBy v'
    | _ => false
  | .arrayType n t, b => match b with
    | .arrayType n' t' => Expr.sameOption n n' && t.sameBy t'
    | _ => false
  | .structType fs, b => match b with | .structType fs' => Field.sameList fs fs' | _ => false
  | .funcType t, b => match b with | .funcType t' => t.sameBy t' | _ => false
  | .interfaceType ms, b => match b with
    | .interfaceType ms' => Field.sameList ms ms'
    | _ => false
  | .mapType k v, b => match b with | .mapType k' v' => k.sameBy k' && v.sameBy v' | _ => false
  | .chanType d v, b => match b with | .chanType d' v' => d == d' && v.sameBy v' | _ => false
termination_by structural x => x

def Expr.sameOption : Option Expr → Option Expr → Bool
  | none, b => match b with | none => true | some _ => false
  | some x, b => match b with | some y => x.sameBy y | none => false
termination_by structural x => x

def Expr.sameList : List Expr → List Expr → Bool
  | [], b => match b with | [] => true | _ :: _ => false
  | x :: xs, b => match b with | y :: ys => x.sameBy y && Expr.sameList xs ys | [] => false
termination_by structural x => x

def FuncType.sameBy : FuncType → FuncType → Bool
  | .mk ps rs, .mk ps' rs' => Field.sameList ps ps' && Field.sameResults rs rs'
termination_by structural x => x

def Field.sameResults : Option (List Field) → Option (List Field) → Bool
  | none, b => match b with | none => true | some _ => false
  | some fs, b => match b with | some gs => Field.sameList fs gs | none => false
termination_by structural x => x

def Field.sameBy : Field → Field → Bool
  | .mk ns t g, .mk ns' t' g' => GoRebuild.sameList (Ident.sameBy p) ns ns' && t.sameBy t' && g == g'
termination_by structural x => x

def Field.sameList : List Field → List Field → Bool
  | [], b => match b with | [] => true | _ :: _ => false
  | f :: fs, b => match b with | g :: gs => f.sameBy g && Field.sameList fs gs | [] => false
termination_by structural x => x

def Block.sameBy : Block → Block → Bool
  | .mk ss q, .mk ss' q' => Stmt.sameList ss ss' && p q q'
termination_by structural x => x

def Stmt.sameBy : Stmt → Stmt → Bool
  | .mk k q, .mk k' q' => k.sameBy k' && p q q'
termination_by structural x => x

def Stmt.sameOption : Option Stmt → Option Stmt → Bool
  | none, b => match b with | none => true | some _ => false
  | some x, b => match b with | some y => x.sameBy y | none => false
termination_by structural x => x

def Stmt.sameList : List Stmt → List Stmt → Bool
  | [], b => match b with | [] => true | _ :: _ => false
  | x :: xs, b => match b with | y :: ys => x.sameBy y && Stmt.sameList xs ys | [] => false
termination_by structural x => x

def StmtKind.sameBy : StmtKind → StmtKind → Bool
  | .bad k, b => match b with | .bad k' => k == k' | _ => false
  | .decl d, b => match b with | .decl d' => d.sameBy d' | _ => false
  | .empty, b => match b with | .empty => true | _ => false
  | .labeled l s, b => match b with
    | .labeled l' s' => Ident.sameBy p l l' && s.sameBy s'
    | _ => false
  | .expr x, b => match b with | .expr x' => x.sameBy x' | _ => false
  | .send c v, b => match b with | .send c' v' => c.sameBy c' && v.sameBy v' | _ => false
  | .incDec x t, b => match b with | .incDec x' t' => x.sameBy x' && t == t' | _ => false
  | .assign l t r, b => match b with
    | .assign l' t' r' => Expr.sameList l l' && t == t' && Expr.sameList r r'
    | _ => false
  | .goStmt c, b => match b with | .goStmt c' => c.sameBy c' | _ => false
  | .deferStmt c, b => match b with | .deferStmt c' => c.sameBy c' | _ => false
  | .returnStmt rs, b => match b with | .returnStmt rs' => Expr.sameList rs rs' | _ => false
  | .branch t l, b => match b with
    | .branch t' l' => t == t' && GoRebuild.sameOption (Ident.sameBy p) l l'
    | _ => false
  | .block s, b => match b with | .block s' => s.sameBy s' | _ => false
  | .ifStmt i c s e, b => match b with
    | .ifStmt i' c' s' e' => Stmt.sameOption i i' && c.sameBy c' && s.sameBy s' &&
        Stmt.sameOption e e'
    | _ => false
  | .caseClause l s, b => match b with
    | .caseClause l' s' => Expr.sameList l l' && Stmt.sameList s s'
    | _ => false
  | .switchStmt i t s, b => match b with
    | .switchStmt i' t' s' => Stmt.sameOption i i' && Expr.sameOption t t' && s.sameBy s'
    | _ => false
  | .typeSwitch i a s, b => match b with
    | .typeSwitch i' a' s' => Stmt.sameOption i i' && a.sameBy a' && s.sameBy s'
    | _ => false
  | .commClause c s, b => match b with
    | .commClause c' s' => Stmt.sameOption c c' && Stmt.sameList s s'
    | _ => false
  | .selectStmt s, b => match b with | .selectStmt s' => s.sameBy s' | _ => false
  | .forStmt i c q s, b => match b with
    | .forStmt i' c' q' s' => Stmt.sameOption i i' && Expr.sameOption c c' &&
        Stmt.sameOption q q' && s.sameBy s'
    | _ => false
  | .rangeStmt k v t x s, b => match b with
    | .rangeStmt k' v' t' x' s' => Expr.sameOption k k' && Expr.sameOption v v' && t == t' &&
        x.sameBy x' && s.sameBy s'
    | _ => false
termination_by structural x => x

def GenDecl.sameBy : GenDecl → GenDecl → Bool
  | .mk t q g ss, .mk t' q' g' ss' => t == t' && p q q' && g == g' && Spec.sameList ss ss'
termination_by structural x => x

def Spec.sameBy : Spec → Spec → Bool
  | .imported s, b => match b with | .imported s' => ImportSpec.sameBy p s s' | _ => false
  | .value ns t vs, b => match b with
    | .value ns' t' vs' => GoRebuild.sameList (Ident.sameBy p) ns ns' && Expr.sameOption t t' &&
        Expr.sameList vs vs'
    | _ => false
  | .type n a t, b => match b with
    | .type n' a' t' => Ident.sameBy p n n' && a == a' && t.sameBy t'
    | _ => false
termination_by structural x => x

def Spec.sameList : List Spec → List Spec → Bool
  | [], b => match b with | [] => true | _ :: _ => false
  | x :: xs, b => match b with | y :: ys => x.sameBy y && Spec.sameList xs ys | [] => false
termination_by structural x => x

end

def FuncDecl.sameBy (a b : FuncDecl) : Bool :=
  Field.sameResults p a.recv b.recv && Ident.sameBy p a.name b.name && a.ty.sameBy p b.ty &&
    sameOption (Block.sameBy p) a.body b.body && p a.pos b.pos

def Decl.sameBy : Decl → Decl → Bool
  | .gen d, .gen d' => d.sameBy p d'
  | .func d, .func d' => FuncDecl.sameBy p d d'
  | _, _ => false

def File.sameBy (a b : File) : Bool :=
  Ident.sameBy p a.package b.package && sameList (ImportSpec.sameBy p) a.imports b.imports &&
    sameList (Decl.sameBy p) a.decls b.decls

end

/-- The same expression, positions included. -/
def Expr.same : Expr → Expr → Bool := Expr.sameBy (· == ·)

def Stmt.same : Stmt → Stmt → Bool := Stmt.sameBy (· == ·)

def Decl.same : Decl → Decl → Bool := Decl.sameBy (· == ·)

def File.same : File → File → Bool := File.sameBy (· == ·)

/-- The same expression, wherever its nodes stand. -/
def Expr.alike : Expr → Expr → Bool := Expr.sameBy fun _ _ => true

def Stmt.alike : Stmt → Stmt → Bool := Stmt.sameBy fun _ _ => true

def Decl.alike : Decl → Decl → Bool := Decl.sameBy fun _ _ => true

def File.alike : File → File → Bool := File.sameBy fun _ _ => true

end GoRebuild
