import GoRebuild.Tree.Same

/-!
# Trees at other positions

* `Expr.moved`, `Stmt.moved`, `Decl.moved`, `File.moved` : a tree whose nodes all stand elsewhere; two moves are one
  (`moved_moved`), and the move that moves nothing changes nothing (`moved_id`);
* `ExprKind.Paired`, `StmtKind.Paired` : kinds made by one constructor, so that a proof about two of them has a case a
  constructor and not a case for each two;
* `Expr.sameBy_iff`, `Stmt.sameBy_iff`, `Decl.sameBy_iff`, `File.sameBy_iff` : equality up to a test of positions is
  equality behind a move that makes exactly the positions equal that pass the test;
* `Expr.alike_iff`, `Stmt.alike_iff`, `Decl.alike_iff`, `File.alike_iff` : two trees are alike exactly if they are
  the same without their positions.
-/

namespace GoRebuild

/-- Any position as that of nodes that come from no source. -/
abbrev Pos.nowhere (_ : Pos) : Pos :=
  .none

/-! ## Moving -/

section
variable (g : Pos → Pos)

def Ident.moved (n : Ident) : Ident :=
  ⟨n.name, g n.pos⟩

def ImportSpec.moved (i : ImportSpec) : ImportSpec :=
  ⟨i.name, i.path, g i.pos⟩

mutual

/-- An expression that stands elsewhere. -/
def Expr.moved : Expr → Expr
  | .mk k q => .mk k.moved (g q)

def ExprKind.moved : ExprKind → ExprKind
  | .bad k => .bad k
  | .ident n => .ident n
  | .ellipsis e => .ellipsis (Expr.movedOption e)
  | .basicLit l => .basicLit l
  | .funcLit t s => .funcLit t.moved s.moved
  | .compositeLit t es => .compositeLit (Expr.movedOption t) (Expr.movedList es)
  | .paren x => .paren x.moved
  | .selector x n => .selector x.moved (n.moved g)
  | .index x i => .index x.moved i.moved
  | .slice x l h m s => .slice x.moved (Expr.movedOption l) (Expr.movedOption h) (Expr.movedOption m) s
  | .typeAssert x t => .typeAssert x.moved (Expr.movedOption t)
  | .call f as e => .call f.moved (Expr.movedList as) e
  | .star x => .star x.moved
  | .unary o x => .unary o x.moved
  | .binary x o y => .binary x.moved o y.moved
  | .keyValue k v => .keyValue k.moved v.moved
  | .arrayType n t => .arrayType (Expr.movedOption n) t.moved
  | .structType fs => .structType (Field.movedList fs)
  | .funcType t => .funcType t.moved
  | .interfaceType ms => .interfaceType (Field.movedList ms)
  | .mapType k v => .mapType k.moved v.moved
  | .chanType d v => .chanType d v.moved

def Expr.movedOption : Option Expr → Option Expr
  | none => none
  | some x => some x.moved

def Expr.movedList : List Expr → List Expr
  | [] => []
  | x :: xs => x.moved :: Expr.movedList xs

def FuncType.moved : FuncType → FuncType
  | .mk ps rs => .mk (Field.movedList ps) (Field.movedResults rs)

def Field.movedResults : Option (List Field) → Option (List Field)
  | none => none
  | some fs => some (Field.movedList fs)

def Field.moved : Field → Field
  | .mk ns t tag => .mk (ns.map (Ident.moved g)) t.moved tag

def Field.movedList : List Field → List Field
  | [] => []
  | f :: fs => f.moved :: Field.movedList fs

def Block.moved : Block → Block
  | .mk ss q => .mk (Stmt.movedList ss) (g q)

def Stmt.moved : Stmt → Stmt
  | .mk k q => .mk k.moved (g q)

def Stmt.movedOption : Option Stmt → Option Stmt
  | none => none
  | some x => some x.moved

def Stmt.movedList : List Stmt → List Stmt
  | [] => []
  | x :: xs => x.moved :: Stmt.movedList xs

def StmtKind.moved : StmtKind → StmtKind
  | .bad k => .bad k
  | .decl d => .decl d.moved
  | .empty => .empty
  | .labeled l x => .labeled (l.moved g) x.moved
  | .expr x => .expr x.moved
  | .send c v => .send c.moved v.moved
  | .incDec x t => .incDec x.moved t
  | .assign l t r => .assign (Expr.movedList l) t (Expr.movedList r)
  | .goStmt c => .goStmt c.moved
  | .deferStmt c => .deferStmt c.moved
  | .returnStmt rs => .returnStmt (Expr.movedList rs)
  | .branch t l => .branch t (l.map (Ident.moved g))
  | .block s => .block s.moved
  | .ifStmt i c s e => .ifStmt (Stmt.movedOption i) c.moved s.moved (Stmt.movedOption e)
  | .caseClause l s => .caseClause (Expr.movedList l) (Stmt.movedList s)
  | .switchStmt i t s => .switchStmt (Stmt.movedOption i) (Expr.movedOption t) s.moved
  | .typeSwitch i a s => .typeSwitch (Stmt.movedOption i) a.moved s.moved
  | .commClause c s => .commClause (Stmt.movedOption c) (Stmt.movedList s)
  | .selectStmt s => .selectStmt s.moved
  | .forStmt i c q s => .forStmt (Stmt.movedOption i) (Expr.movedOption c) (Stmt.movedOption q) s.moved
  | .rangeStmt k v t x s => .rangeStmt (Expr.movedOption k) (Expr.movedOption v) t x.moved s.moved

def GenDecl.moved : GenDecl → GenDecl
  | .mk t q grouped ss => .mk t (g q) grouped (Spec.movedList ss)

def Spec.moved : Spec → Spec
  | .imported i => .imported (i.moved g)
  | .value ns t vs => .value (ns.map (Ident.moved g)) (Expr.movedOption t) (Expr.movedList vs)
  | .type n a t => .type (n.moved g) a t.moved

def Spec.movedList : List Spec → List Spec
  | [] => []
  | x :: xs => x.moved :: Spec.movedList xs

end

def FuncDecl.moved (d : FuncDecl) : FuncDecl :=
  ⟨Field.movedResults g d.recv, d.name.moved g, d.ty.moved g, d.body.map (Block.moved g), g d.pos⟩

def Decl.moved : Decl → Decl
  | gen d => gen (d.moved g)
  | func d => func (d.moved g)

def File.moved (f : File) : File :=
  ⟨f.package.moved g, f.imports.map (ImportSpec.moved g), f.decls.map (Decl.moved g)⟩

end

/-! ## Moving again -/

section
variable (g h : Pos → Pos)

theorem Ident.moved_moved (n : Ident) : (n.moved g).moved h = n.moved (h ∘ g) :=
  rfl

theorem ImportSpec.moved_moved (i : ImportSpec) : (i.moved g).moved h = i.moved (h ∘ g) :=
  rfl

mutual

theorem Expr.moved_moved : ∀ x : Expr, (x.moved g).moved h = x.moved (h ∘ g)
  | .mk k _ => by simp only [Expr.moved, ExprKind.moved_moved k, Function.comp]
termination_by structural x => x

theorem ExprKind.moved_moved (k : ExprKind) : (k.moved g).moved h = k.moved (h ∘ g) := by
  cases k <;> simp only [ExprKind.moved, Expr.moved_moved, Expr.movedOption_movedOption,
    Expr.movedList_movedList, FuncType.moved_moved, Block.moved_moved, Field.movedList_movedList, Ident.moved_moved]
termination_by structural k

theorem Expr.movedOption_movedOption :
    ∀ x : Option Expr, Expr.movedOption h (Expr.movedOption g x) = Expr.movedOption (h ∘ g) x
  | none => rfl
  | some x => by simp only [Expr.movedOption, Expr.moved_moved x]
termination_by structural x => x

theorem Expr.movedList_movedList :
    ∀ xs : List Expr, Expr.movedList h (Expr.movedList g xs) = Expr.movedList (h ∘ g) xs
  | [] => rfl
  | x :: xs => by simp only [Expr.movedList, Expr.moved_moved x, Expr.movedList_movedList xs]
termination_by structural xs => xs

theorem FuncType.moved_moved : ∀ t : FuncType, (t.moved g).moved h = t.moved (h ∘ g)
  | .mk ps rs => by simp only [FuncType.moved, Field.movedList_movedList ps, Field.movedResults_movedResults rs]
termination_by structural t => t

theorem Field.movedResults_movedResults :
    ∀ rs : Option (List Field), Field.movedResults h (Field.movedResults g rs) = Field.movedResults (h ∘ g) rs
  | none => rfl
  | some fs => by simp only [Field.movedResults, Field.movedList_movedList fs]
termination_by structural rs => rs

theorem Field.moved_moved : ∀ f : Field, (f.moved g).moved h = f.moved (h ∘ g)
  | .mk ns t _ => by
    simp only [Field.moved, List.map_map, Expr.moved_moved t]
    rfl
termination_by structural f => f

theorem Field.movedList_movedList :
    ∀ fs : List Field, Field.movedList h (Field.movedList g fs) = Field.movedList (h ∘ g) fs
  | [] => rfl
  | f :: fs => by simp only [Field.movedList, Field.moved_moved f, Field.movedList_movedList fs]
termination_by structural fs => fs

theorem Block.moved_moved : ∀ s : Block, (s.moved g).moved h = s.moved (h ∘ g)
  | .mk ss _ => by simp only [Block.moved, Stmt.movedList_movedList ss, Function.comp]
termination_by structural s => s

theorem Stmt.moved_moved : ∀ x : Stmt, (x.moved g).moved h = x.moved (h ∘ g)
  | .mk k _ => by simp only [Stmt.moved, StmtKind.moved_moved k, Function.comp]
termination_by structural x => x

theorem Stmt.movedOption_movedOption :
    ∀ x : Option Stmt, Stmt.movedOption h (Stmt.movedOption g x) = Stmt.movedOption (h ∘ g) x
  | none => rfl
  | some x => by simp only [Stmt.movedOption, Stmt.moved_moved x]
termination_by structural x => x

theorem Stmt.movedList_movedList :
    ∀ xs : List Stmt, Stmt.movedList h (Stmt.movedList g xs) = Stmt.movedList (h ∘ g) xs
  | [] => rfl
  | x :: xs => by simp only [Stmt.movedList, Stmt.moved_moved x, Stmt.movedList_movedList xs]
termination_by structural xs => xs

theorem StmtKind.moved_moved (k : StmtKind) : (k.moved g).moved h = k.moved (h ∘ g) := by
  cases k <;> simp only [StmtKind.moved, Expr.moved_moved, Expr.movedOption_movedOption,
    Expr.movedList_movedList, Stmt.moved_moved, Stmt.movedOption_movedOption, Stmt.movedList_movedList,
    Block.moved_moved, GenDecl.moved_moved, Ident.moved_moved, Option.map_map]
  rfl
termination_by structural k

theorem GenDecl.moved_moved : ∀ d : GenDecl, (d.moved g).moved h = d.moved (h ∘ g)
  | .mk _ _ _ ss => by simp only [GenDecl.moved, Spec.movedList_movedList ss, Function.comp]
termination_by structural d => d

theorem Spec.moved_moved : ∀ x : Spec, (x.moved g).moved h = x.moved (h ∘ g)
  | .imported _ => rfl
  | .value ns t vs => by
    simp only [Spec.moved, List.map_map, Expr.movedOption_movedOption t, Expr.movedList_movedList vs]
    rfl
  | .type _ _ t => by simp only [Spec.moved, Expr.moved_moved t, Ident.moved_moved]
termination_by structural x => x

theorem Spec.movedList_movedList :
    ∀ xs : List Spec, Spec.movedList h (Spec.movedList g xs) = Spec.movedList (h ∘ g) xs
  | [] => rfl
  | x :: xs => by simp only [Spec.movedList, Spec.moved_moved x, Spec.movedList_movedList xs]
termination_by structural xs => xs

end

theorem FuncDecl.moved_moved (d : FuncDecl) : (d.moved g).moved h = d.moved (h ∘ g) := by
  have hbody : Block.moved h ∘ Block.moved g = Block.moved (h ∘ g) := funext (Block.moved_moved g h)
  simp only [FuncDecl.moved, Field.movedResults_movedResults, FuncType.moved_moved, Ident.moved_moved, Option.map_map,
    hbody, Function.comp]

theorem Decl.moved_moved (d : Decl) : (d.moved g).moved h = d.moved (h ∘ g) := by
  cases d <;> simp only [Decl.moved, GenDecl.moved_moved, FuncDecl.moved_moved]

theorem File.moved_moved (f : File) : (f.moved g).moved h = f.moved (h ∘ g) := by
  have hdecl : Decl.moved h ∘ Decl.moved g = Decl.moved (h ∘ g) := funext (Decl.moved_moved g h)
  simp only [File.moved, List.map_map, hdecl, Ident.moved_moved]
  rfl

end

/-! ## Staying -/

theorem Ident.moved_id (n : Ident) : n.moved id = n :=
  rfl

theorem ImportSpec.moved_id (i : ImportSpec) : i.moved id = i :=
  rfl

mutual

theorem Expr.moved_id : ∀ x : Expr, x.moved id = x
  | .mk k _ => by simp only [Expr.moved, ExprKind.moved_id k, id]
termination_by structural x => x

theorem ExprKind.moved_id (k : ExprKind) : k.moved id = k := by
  cases k <;> simp only [ExprKind.moved, Expr.moved_id, Expr.movedOption_id, Expr.movedList_id, FuncType.moved_id,
    Block.moved_id, Field.movedList_id, Ident.moved_id]
termination_by structural k

theorem Expr.movedOption_id : ∀ x : Option Expr, Expr.movedOption id x = x
  | none => rfl
  | some x => by simp only [Expr.movedOption, Expr.moved_id x]
termination_by structural x => x

theorem Expr.movedList_id : ∀ xs : List Expr, Expr.movedList id xs = xs
  | [] => rfl
  | x :: xs => by simp only [Expr.movedList, Expr.moved_id x, Expr.movedList_id xs]
termination_by structural xs => xs

theorem FuncType.moved_id : ∀ t : FuncType, t.moved id = t
  | .mk ps rs => by simp only [FuncType.moved, Field.movedList_id ps, Field.movedResults_id rs]
termination_by structural t => t

theorem Field.movedResults_id : ∀ rs : Option (List Field), Field.movedResults id rs = rs
  | none => rfl
  | some fs => by simp only [Field.movedResults, Field.movedList_id fs]
termination_by structural rs => rs

theorem Field.moved_id : ∀ f : Field, f.moved id = f
  | .mk _ t _ => by simp only [Field.moved, List.map_id'' Ident.moved_id, Expr.moved_id t]
termination_by structural f => f

theorem Field.movedList_id : ∀ fs : List Field, Field.movedList id fs = fs
  | [] => rfl
  | f :: fs => by simp only [Field.movedList, Field.moved_id f, Field.movedList_id fs]
termination_by structural fs => fs

theorem Block.moved_id : ∀ s : Block, s.moved id = s
  | .mk ss _ => by simp only [Block.moved, Stmt.movedList_id ss, id]
termination_by structural s => s

theorem Stmt.moved_id : ∀ x : Stmt, x.moved id = x
  | .mk k _ => by simp only [Stmt.moved, StmtKind.moved_id k, id]
termination_by structural x => x

theorem Stmt.movedOption_id : ∀ x : Option Stmt, Stmt.movedOption id x = x
  | none => rfl
  | some x => by simp only [Stmt.movedOption, Stmt.moved_id x]
termination_by structural x => x

theorem Stmt.movedList_id : ∀ xs : List Stmt, Stmt.movedList id xs = xs
  | [] => rfl
  | x :: xs => by simp only [Stmt.movedList, Stmt.moved_id x, Stmt.movedList_id xs]
termination_by structural xs => xs

theorem StmtKind.moved_id (k : StmtKind) : k.moved id = k := by
  have hname : Ident.moved id = id := rfl
  cases k <;> simp only [StmtKind.moved, Expr.moved_id, Expr.movedOption_id, Expr.movedList_id, Stmt.moved_id,
    Stmt.movedOption_id, Stmt.movedList_id, Block.moved_id, GenDecl.moved_id, Ident.moved_id, hname, Option.map_id, id]
termination_by structural k

theorem GenDecl.moved_id : ∀ d : GenDecl, d.moved id = d
  | .mk _ _ _ ss => by simp only [GenDecl.moved, Spec.movedList_id ss, id]
termination_by structural d => d

theorem Spec.moved_id : ∀ x : Spec, x.moved id = x
  | .imported _ => rfl
  | .value _ t vs => by
    simp only [Spec.moved, List.map_id'' Ident.moved_id, Expr.movedOption_id t, Expr.movedList_id vs]
  | .type _ _ t => by simp only [Spec.moved, Expr.moved_id t, Ident.moved_id]
termination_by structural x => x

theorem Spec.movedList_id : ∀ xs : List Spec, Spec.movedList id xs = xs
  | [] => rfl
  | x :: xs => by simp only [Spec.movedList, Spec.moved_id x, Spec.movedList_id xs]
termination_by structural xs => xs

end

theorem FuncDecl.moved_id (d : FuncDecl) : d.moved id = d := by
  have hbody : Block.moved id = id := funext Block.moved_id
  simp only [FuncDecl.moved, Field.movedResults_id, FuncType.moved_id, Ident.moved_id, hbody, Option.map_id, id]

theorem Decl.moved_id (d : Decl) : d.moved id = d := by
  cases d <;> simp only [Decl.moved, GenDecl.moved_id, FuncDecl.moved_id]

theorem File.moved_id (f : File) : f.moved id = f := by
  simp only [File.moved, Ident.moved_id, List.map_id'' ImportSpec.moved_id, List.map_id'' Decl.moved_id]

/-! ## Lists and options -/

theorem sameList_iff {α : Type} {f : α → α → Bool} {g : α → α} (h : ∀ a b, f a b = true ↔ g a = g b) :
    ∀ as bs : List α, sameList f as bs = true ↔ as.map g = bs.map g
  | [], [] => iff_of_true rfl rfl
  | [], _ :: _ => iff_of_false nofun nofun
  | _ :: _, [] => iff_of_false nofun nofun
  | a :: as, b :: bs => by
    rw [sameList, Bool.and_eq_true, h, sameList_iff h as bs, List.map_cons, List.map_cons, List.cons.injEq]

theorem sameOption_iff {α : Type} {f : α → α → Bool} {g : α → α} (h : ∀ a b, f a b = true ↔ g a = g b) :
    ∀ a b : Option α, sameOption f a b = true ↔ a.map g = b.map g
  | none, none => iff_of_true rfl rfl
  | none, some _ => iff_of_false nofun nofun
  | some _, none => iff_of_false nofun nofun
  | some a, some b => by
    rw [sameOption, h, Option.map_some, Option.map_some, Option.some.injEq]

/-! ## Constructors -/

/-- Two kinds of expressions made by one constructor. -/
inductive ExprKind.Paired : ExprKind → ExprKind → Prop where
  | bad (k k') : Paired (.bad k) (.bad k')
  | ident (n n') : Paired (.ident n) (.ident n')
  | ellipsis (e e') : Paired (.ellipsis e) (.ellipsis e')
  | basicLit (l l') : Paired (.basicLit l) (.basicLit l')
  | funcLit (t s t' s') : Paired (.funcLit t s) (.funcLit t' s')
  | compositeLit (t es t' es') : Paired (.compositeLit t es) (.compositeLit t' es')
  | paren (x x') : Paired (.paren x) (.paren x')
  | selector (x n x' n') : Paired (.selector x n) (.selector x' n')
  | index (x i x' i') : Paired (.index x i) (.index x' i')
  | slice (x l h m s x' l' h' m' s') : Paired (.slice x l h m s) (.slice x' l' h' m' s')
  | typeAssert (x t x' t') : Paired (.typeAssert x t) (.typeAssert x' t')
  | call (f as e f' as' e') : Paired (.call f as e) (.call f' as' e')
  | star (x x') : Paired (.star x) (.star x')
  | unary (o x o' x') : Paired (.unary o x) (.unary o' x')
  | binary (x o y x' o' y') : Paired (.binary x o y) (.binary x' o' y')
  | keyValue (k v k' v') : Paired (.keyValue k v) (.keyValue k' v')
  | arrayType (n t n' t') : Paired (.arrayType n t) (.arrayType n' t')
  | structType (fs fs') : Paired (.structType fs) (.structType fs')
  | funcType (t t') : Paired (.funcType t) (.funcType t')
  | interfaceType (ms ms') : Paired (.interfaceType ms) (.interfaceType ms')
  | mapType (k v k' v') : Paired (.mapType k v) (.mapType k' v')
  | chanType (d v d' v') : Paired (.chanType d v) (.chanType d' v')

/-- Two kinds of statements made by one constructor. -/
inductive StmtKind.Paired : StmtKind → StmtKind → Prop where
  | bad (k k') : Paired (.bad k) (.bad k')
  | decl (d d') : Paired (.decl d) (.decl d')
  | empty : Paired .empty .empty
  | labeled (l x l' x') : Paired (.labeled l x) (.labeled l' x')
  | expr (x x') : Paired (.expr x) (.expr x')
  | send (c v c' v') : Paired (.send c v) (.send c' v')
  | incDec (x t x' t') : Paired (.incDec x t) (.incDec x' t')
  | assign (l t r l' t' r') : Paired (.assign l t r) (.assign l' t' r')
  | goStmt (c c') : Paired (.goStmt c) (.goStmt c')
  | deferStmt (c c') : Paired (.deferStmt c) (.deferStmt c')
  | returnStmt (rs rs') : Paired (.returnStmt rs) (.returnStmt rs')
  | branch (t l t' l') : Paired (.branch t l) (.branch t' l')
  | block (s s') : Paired (.block s) (.block s')
  | ifStmt (i c s e i' c' s' e') : Paired (.ifStmt i c s e) (.ifStmt i' c' s' e')
  | caseClause (l s l' s') : Paired (.caseClause l s) (.caseClause l' s')
  | switchStmt (i t s i' t' s') : Paired (.switchStmt i t s) (.switchStmt i' t' s')
  | typeSwitch (i a s i' a' s') : Paired (.typeSwitch i a s) (.typeSwitch i' a' s')
  | commClause (c s c' s') : Paired (.commClause c s) (.commClause c' s')
  | selectStmt (s s') : Paired (.selectStmt s) (.selectStmt s')
  | forStmt (i c q s i' c' q' s') : Paired (.forStmt i c q s) (.forStmt i' c' q' s')
  | rangeStmt (k v t x s k' v' t' x' s') : Paired (.rangeStmt k v t x s) (.rangeStmt k' v' t' x' s')

theorem ExprKind.paired {a b : ExprKind} (h : a.ctorIdx = b.ctorIdx) : Paired a b := by
  cases a <;> cases b <;> first | constructor | cases h

theorem ExprKind.ctorIdx_moved (g : Pos → Pos) (k : ExprKind) : (k.moved g).ctorIdx = k.ctorIdx := by
  cases k <;> rfl

theorem ExprKind.ctorIdx_of_sameBy {p : Pos → Pos → Bool} {a b : ExprKind} (h : a.sameBy p b = true) :
    a.ctorIdx = b.ctorIdx := by
  cases a <;> unfold ExprKind.sameBy at h <;> split at h <;> first | rfl | cases h

/-- Two kinds by different constructors differ, with and without their positions. -/
theorem ExprKind.sameBy_iff_of_paired {p : Pos → Pos → Bool} {g : Pos → Pos} {a : ExprKind}
    (h : ∀ b, Paired a b → (a.sameBy p b = true ↔ a.moved g = b.moved g)) (b : ExprKind) :
    a.sameBy p b = true ↔ a.moved g = b.moved g := by
  by_cases hc : a.ctorIdx = b.ctorIdx
  · exact h b (paired hc)
  · refine iff_of_false (hc ∘ ctorIdx_of_sameBy) fun hm => hc ?_
    rw [← ctorIdx_moved g a, hm, ctorIdx_moved]

theorem StmtKind.paired {a b : StmtKind} (h : a.ctorIdx = b.ctorIdx) : Paired a b := by
  cases a <;> cases b <;> first | constructor | cases h

theorem StmtKind.ctorIdx_moved (g : Pos → Pos) (k : StmtKind) : (k.moved g).ctorIdx = k.ctorIdx := by
  cases k <;> rfl

theorem StmtKind.ctorIdx_of_sameBy {p : Pos → Pos → Bool} {a b : StmtKind} (h : a.sameBy p b = true) :
    a.ctorIdx = b.ctorIdx := by
  cases a <;> unfold StmtKind.sameBy at h <;> split at h <;> first | rfl | cases h

/-- Two kinds by different constructors differ, with and without their positions. -/
theorem StmtKind.sameBy_iff_of_paired {p : Pos → Pos → Bool} {g : Pos → Pos} {a : StmtKind}
    (h : ∀ b, Paired a b → (a.sameBy p b = true ↔ a.moved g = b.moved g)) (b : StmtKind) :
    a.sameBy p b = true ↔ a.moved g = b.moved g := by
  by_cases hc : a.ctorIdx = b.ctorIdx
  · exact h b (paired hc)
  · refine iff_of_false (hc ∘ ctorIdx_of_sameBy) fun hm => hc ?_
    rw [← ctorIdx_moved g a, hm, ctorIdx_moved]

/-! ## Equality up to a test of positions -/

section
variable {p : Pos → Pos → Bool} {g : Pos → Pos} (hp : ∀ x y, p x y = true ↔ g x = g y)
include hp

theorem Ident.sameBy_iff (a b : Ident) : Ident.sameBy p a b = true ↔ a.moved g = b.moved g := by
  simp [Ident.sameBy, Ident.moved, hp]

theorem ImportSpec.sameBy_iff (a b : ImportSpec) :
    ImportSpec.sameBy p a b = true ↔ a.moved g = b.moved g := by
  simp [ImportSpec.sameBy, ImportSpec.moved, hp, and_assoc]

set_option linter.unusedSectionVars false in
mutual

theorem Expr.sameBy_iff : ∀ a b : Expr, a.sameBy p b = true ↔ a.moved g = b.moved g
  | .mk k _, .mk k' _ => by simp [Expr.sameBy, Expr.moved, ExprKind.sameBy_iff k k', hp]
termination_by structural a => a

theorem ExprKind.sameBy_iff : ∀ a b : ExprKind, a.sameBy p b = true ↔ a.moved g = b.moved g
  | .bad k => ExprKind.sameBy_iff_of_paired fun _ h => by
    cases h with
    | bad _ k' =>
      unfold ExprKind.sameBy ExprKind.moved
      simp only [ExprKind.bad.injEq, beq_iff_eq]
  | .ident n => ExprKind.sameBy_iff_of_paired fun _ h => by
    cases h with
    | ident _ n' =>
      unfold ExprKind.sameBy ExprKind.moved
      simp only [ExprKind.ident.injEq, beq_iff_eq]
  | .ellipsis e => ExprKind.sameBy_iff_of_paired fun _ h => by
    cases h with
    | ellipsis _ e' =>
      unfold ExprKind.sameBy ExprKind.moved
      simp only [ExprKind.ellipsis.injEq, Expr.sameOption_iff e e']
  | .basicLit l => ExprKind.sameBy_iff_of_paired fun _ h => by
    cases h with
    | basicLit _ l' =>
      unfold ExprKind.sameBy ExprKind.moved
      simp only [ExprKind.basicLit.injEq, beq_iff_eq]
  | .funcLit t s => ExprKind.sameBy_iff_of_paired fun _ h => by
    cases h with
    | funcLit _ _ t' s' =>
      unfold ExprKind.sameBy ExprKind.moved
      simp only [ExprKind.funcLit.injEq, Bool.and_eq_true, FuncType.sameBy_iff t t',
        Block.sameBy_iff s s']
  | .compositeLit t es => ExprKind.sameBy_iff_of_paired fun _ h => by
    cases h with
    | compositeLit _ _ t' es' =>
      unfold ExprKind.sameBy ExprKind.moved
      simp only [ExprKind.compositeLit.injEq, Bool.and_eq_true, Expr.sameOption_iff t t',
        Expr.sameList_iff es es']
  | .paren x => ExprKind.sameBy_iff_of_paired fun _ h => by
    cases h with
    | paren _ x' =>
      unfold ExprKind.sameBy ExprKind.moved
      simp only [ExprKind.paren.injEq, Expr.sameBy_iff x x']
  | .selector x n => ExprKind.sameBy_iff_of_paired fun _ h => by
    cases h with
    | selector _ _ x' n' =>
      unfold ExprKind.sameBy ExprKind.moved
      simp only [ExprKind.selector.injEq, Bool.and_eq_true, Expr.sameBy_iff x x', Ident.sameBy_iff hp]
  | .index x i => ExprKind.sameBy_iff_of_paired fun _ h => by
    cases h with
    | index _ _ x' i' =>
      unfold ExprKind.sameBy ExprKind.moved
      simp only [ExprKind.index.injEq, Bool.and_eq_true, Expr.sameBy_iff x x', Expr.sameBy_iff i i']
  | .slice x l h m s => ExprKind.sameBy_iff_of_paired fun _ h => by
    cases h with
    | slice _ _ _ _ _ x' l' h' m' s' =>
      unfold ExprKind.sameBy ExprKind.moved
      simp only [ExprKind.slice.injEq, Bool.and_eq_true, and_assoc, beq_iff_eq, Expr.sameBy_iff x x',
        Expr.sameOption_iff l l', Expr.sameOption_iff h h', Expr.sameOption_iff m m']
  | .typeAssert x t => ExprKind.sameBy_iff_of_paired fun _ h => by
    cases h with
    | typeAssert _ _ x' t' =>
      unfold ExprKind.sameBy ExprKind.moved
      simp only [ExprKind.typeAssert.injEq, Bool.and_eq_true, Expr.sameBy_iff x x',
        Expr.sameOption_iff t t']
  | .call f as e => ExprKind.sameBy_iff_of_paired fun _ h => by
    cases h with
    | call _ _ _ f' as' e' =>
      unfold ExprKind.sameBy ExprKind.moved
      simp only [ExprKind.call.injEq, Bool.and_eq_true, and_assoc, beq_iff_eq, Expr.sameBy_iff f f',
        Expr.sameList_iff as as']
  | .star x => ExprKind.sameBy_iff_of_paired fun _ h => by
    cases h with
    | star _ x' =>
      unfold ExprKind.sameBy ExprKind.moved
      simp only [ExprKind.star.injEq, Expr.sameBy_iff x x']
  | .unary o x => ExprKind.sameBy_iff_of_paired fun _ h => by
    cases h with
    | unary _ _ o' x' =>
      unfold ExprKind.sameBy ExprKind.moved
      simp only [ExprKind.unary.injEq, Bool.and_eq_true, beq_iff_eq, Expr.sameBy_iff x x']
  | .binary x o y => ExprKind.sameBy_iff_of_paired fun _ h => by
    cases h with
    | binary _ _ _ x' o' y' =>
      unfold ExprKind.sameBy ExprKind.moved
      simp only [ExprKind.binary.injEq, Bool.and_eq_true, and_assoc, beq_iff_eq, Expr.sameBy_iff x x',
        Expr.sameBy_iff y y']
  | .keyValue k v => ExprKind.sameBy_iff_of_paired fun _ h => by
    cases h with
    | keyValue _ _ k' v' =>
      unfold ExprKind.sameBy ExprKind.moved
      simp only [ExprKind.keyValue.injEq, Bool.and_eq_true, Expr.sameBy_iff k k',
        Expr.sameBy_iff v v']
  | .arrayType n t => ExprKind.sameBy_iff_of_paired fun _ h => by
    cases h with
    | arrayType _ _ n' t' =>
      unfold ExprKind.sameBy ExprKind.moved
      simp only [ExprKind.arrayType.injEq, Bool.and_eq_true, Expr.sameOption_iff n n',
        Expr.sameBy_iff t t']
  | .structType fs => ExprKind.sameBy_iff_of_paired fun _ h => by
    cases h with
    | structType _ fs' =>
      unfold ExprKind.sameBy ExprKind.moved
      simp only [ExprKind.structType.injEq, Field.sameList_iff fs fs']
  | .funcType t => ExprKind.sameBy_iff_of_paired fun _ h => by
    cases h with
    | funcType _ t' =>
      unfold ExprKind.sameBy ExprKind.moved
      simp only [ExprKind.funcType.injEq, FuncType.sameBy_iff t t']
  | .interfaceType ms => ExprKind.sameBy_iff_of_paired fun _ h => by
    cases h with
    | interfaceType _ ms' =>
      unfold ExprKind.sameBy ExprKind.moved
      simp only [ExprKind.interfaceType.injEq, Field.sameList_iff ms ms']
  | .mapType k v => ExprKind.sameBy_iff_of_paired fun _ h => by
    cases h with
    | mapType _ _ k' v' =>
      unfold ExprKind.sameBy ExprKind.moved
      simp only [ExprKind.mapType.injEq, Bool.and_eq_true, Expr.sameBy_iff k k', Expr.sameBy_iff v v']
  | .chanType d v => ExprKind.sameBy_iff_of_paired fun _ h => by
    cases h with
    | chanType _ _ d' v' =>
      unfold ExprKind.sameBy ExprKind.moved
      simp only [ExprKind.chanType.injEq, Bool.and_eq_true, beq_iff_eq, Expr.sameBy_iff v v']
termination_by structural a => a

theorem Expr.sameOption_iff : ∀ a b : Option Expr,
    Expr.sameOption p a b = true ↔ Expr.movedOption g a = Expr.movedOption g b
  | none, b => by cases b <;> simp [Expr.sameOption, Expr.movedOption]
  | some x, b => by
    cases b with
    | none => simp [Expr.sameOption, Expr.movedOption]
    | some y => simp [Expr.sameOption, Expr.movedOption, Expr.sameBy_iff x y]
termination_by structural a => a

theorem Expr.sameList_iff : ∀ a b : List Expr,
    Expr.sameList p a b = true ↔ Expr.movedList g a = Expr.movedList g b
  | [], b => by cases b <;> simp [Expr.sameList, Expr.movedList]
  | x :: xs, b => by
    cases b with
    | nil => simp [Expr.sameList, Expr.movedList]
    | cons y ys => simp [Expr.sameList, Expr.movedList, Expr.sameBy_iff x y, Expr.sameList_iff xs ys]
termination_by structural a => a

theorem FuncType.sameBy_iff : ∀ a b : FuncType, a.sameBy p b = true ↔ a.moved g = b.moved g
  | .mk ps rs, .mk ps' rs' => by
    simp [FuncType.sameBy, FuncType.moved, Field.sameList_iff ps ps', Field.sameResults_iff rs rs']
termination_by structural a => a

theorem Field.sameResults_iff : ∀ a b : Option (List Field),
    Field.sameResults p a b = true ↔ Field.movedResults g a = Field.movedResults g b
  | none, b => by cases b <;> simp [Field.sameResults, Field.movedResults]
  | some fs, b => by
    cases b with
    | none => simp [Field.sameResults, Field.movedResults]
    | some gs => simp [Field.sameResults, Field.movedResults, Field.sameList_iff fs gs]
termination_by structural a => a

theorem Field.sameBy_iff : ∀ a b : Field, a.sameBy p b = true ↔ a.moved g = b.moved g
  | .mk ns t g, .mk ns' t' g' => by
    simp [Field.sameBy, Field.moved, GoRebuild.sameList_iff (Ident.sameBy_iff hp), Expr.sameBy_iff t t', and_assoc]
termination_by structural a => a

theorem Field.sameList_iff : ∀ a b : List Field,
    Field.sameList p a b = true ↔ Field.movedList g a = Field.movedList g b
  | [], b => by cases b <;> simp [Field.sameList, Field.movedList]
  | f :: fs, b => by
    cases b with
    | nil => simp [Field.sameList, Field.movedList]
    | cons g gs => simp [Field.sameList, Field.movedList, Field.sameBy_iff f g, Field.sameList_iff fs gs]
termination_by structural a => a

theorem Block.sameBy_iff : ∀ a b : Block, a.sameBy p b = true ↔ a.moved g = b.moved g
  | .mk ss _, .mk ss' _ => by simp [Block.sameBy, Block.moved, Stmt.sameList_iff ss ss', hp]
termination_by structural a => a

theorem Stmt.sameBy_iff : ∀ a b : Stmt, a.sameBy p b = true ↔ a.moved g = b.moved g
  | .mk k _, .mk k' _ => by simp [Stmt.sameBy, Stmt.moved, StmtKind.sameBy_iff k k', hp]
termination_by structural a => a

theorem Stmt.sameOption_iff : ∀ a b : Option Stmt,
    Stmt.sameOption p a b = true ↔ Stmt.movedOption g a = Stmt.movedOption g b
  | none, b => by cases b <;> simp [Stmt.sameOption, Stmt.movedOption]
  | some x, b => by
    cases b with
    | none => simp [Stmt.sameOption, Stmt.movedOption]
    | some y => simp [Stmt.sameOption, Stmt.movedOption, Stmt.sameBy_iff x y]
termination_by structural a => a

theorem Stmt.sameList_iff : ∀ a b : List Stmt,
    Stmt.sameList p a b = true ↔ Stmt.movedList g a = Stmt.movedList g b
  | [], b => by cases b <;> simp [Stmt.sameList, Stmt.movedList]
  | x :: xs, b => by
    cases b with
    | nil => simp [Stmt.sameList, Stmt.movedList]
    | cons y ys => simp [Stmt.sameList, Stmt.movedList, Stmt.sameBy_iff x y, Stmt.sameList_iff xs ys]
termination_by structural a => a

theorem StmtKind.sameBy_iff : ∀ a b : StmtKind, a.sameBy p b = true ↔ a.moved g = b.moved g
  | .bad k => StmtKind.sameBy_iff_of_paired fun _ h => by
    cases h with
    | bad _ k' =>
      unfold StmtKind.sameBy StmtKind.moved
      simp only [StmtKind.bad.injEq, beq_iff_eq]
  | .decl d => StmtKind.sameBy_iff_of_paired fun _ h => by
    cases h with
    | decl _ d' =>
      unfold StmtKind.sameBy StmtKind.moved
      simp only [StmtKind.decl.injEq, GenDecl.sameBy_iff d d']
  | .empty => StmtKind.sameBy_iff_of_paired fun _ h => by
    cases h with
    | empty =>
      unfold StmtKind.sameBy StmtKind.moved
      exact iff_of_true rfl rfl
  | .labeled l x => StmtKind.sameBy_iff_of_paired fun _ h => by
    cases h with
    | labeled _ _ l' x' =>
      unfold StmtKind.sameBy StmtKind.moved
      simp only [StmtKind.labeled.injEq, Bool.and_eq_true, Ident.sameBy_iff hp, Stmt.sameBy_iff x x']
  | .expr x => StmtKind.sameBy_iff_of_paired fun _ h => by
    cases h with
    | expr _ x' =>
      unfold StmtKind.sameBy StmtKind.moved
      simp only [StmtKind.expr.injEq, Expr.sameBy_iff x x']
  | .send c v => StmtKind.sameBy_iff_of_paired fun _ h => by
    cases h with
    | send _ _ c' v' =>
      unfold StmtKind.sameBy StmtKind.moved
      simp only [StmtKind.send.injEq, Bool.and_eq_true, Expr.sameBy_iff c c', Expr.sameBy_iff v v']
  | .incDec x t => StmtKind.sameBy_iff_of_paired fun _ h => by
    cases h with
    | incDec _ _ x' t' =>
      unfold StmtKind.sameBy StmtKind.moved
      simp only [StmtKind.incDec.injEq, Bool.and_eq_true, beq_iff_eq, Expr.sameBy_iff x x']
  | .assign l t r => StmtKind.sameBy_iff_of_paired fun _ h => by
    cases h with
    | assign _ _ _ l' t' r' =>
      unfold StmtKind.sameBy StmtKind.moved
      simp only [StmtKind.assign.injEq, Bool.and_eq_true, and_assoc, beq_iff_eq,
        Expr.sameList_iff l l',
        Expr.sameList_iff r r']
  | .goStmt c => StmtKind.sameBy_iff_of_paired fun _ h => by
    cases h with
    | goStmt _ c' =>
      unfold StmtKind.sameBy StmtKind.moved
      simp only [StmtKind.goStmt.injEq, Expr.sameBy_iff c c']
  | .deferStmt c => StmtKind.sameBy_iff_of_paired fun _ h => by
    cases h with
    | deferStmt _ c' =>
      unfold StmtKind.sameBy StmtKind.moved
      simp only [StmtKind.deferStmt.injEq, Expr.sameBy_iff c c']
  | .returnStmt rs => StmtKind.sameBy_iff_of_paired fun _ h => by
    cases h with
    | returnStmt _ rs' =>
      unfold StmtKind.sameBy StmtKind.moved
      simp only [StmtKind.returnStmt.injEq, Expr.sameList_iff rs rs']
  | .branch t l => StmtKind.sameBy_iff_of_paired fun _ h => by
    cases h with
    | branch _ _ t' l' =>
      unfold StmtKind.sameBy StmtKind.moved
      simp only [StmtKind.branch.injEq, Bool.and_eq_true, beq_iff_eq,
        GoRebuild.sameOption_iff (Ident.sameBy_iff hp)]
  | .block s => StmtKind.sameBy_iff_of_paired fun _ h => by
    cases h with
    | block _ s' =>
      unfold StmtKind.sameBy StmtKind.moved
      simp only [StmtKind.block.injEq, Block.sameBy_iff s s']
  | .ifStmt i c s e => StmtKind.sameBy_iff_of_paired fun _ h => by
    cases h with
    | ifStmt _ _ _ _ i' c' s' e' =>
      unfold StmtKind.sameBy StmtKind.moved
      simp only [StmtKind.ifStmt.injEq, Bool.and_eq_true, and_assoc, Stmt.sameOption_iff i i',
        Expr.sameBy_iff c c', Block.sameBy_iff s s', Stmt.sameOption_iff e e']
  | .caseClause l s => StmtKind.sameBy_iff_of_paired fun _ h => by
    cases h with
    | caseClause _ _ l' s' =>
      unfold StmtKind.sameBy StmtKind.moved
      simp only [StmtKind.caseClause.injEq, Bool.and_eq_true, Expr.sameList_iff l l',
        Stmt.sameList_iff s s']
  | .switchStmt i t s => StmtKind.sameBy_iff_of_paired fun _ h => by
    cases h with
    | switchStmt _ _ _ i' t' s' =>
      unfold StmtKind.sameBy StmtKind.moved
      simp only [StmtKind.switchStmt.injEq, Bool.and_eq_true, and_assoc, Stmt.sameOption_iff i i',
        Expr.sameOption_iff t t', Block.sameBy_iff s s']
  | .typeSwitch i a s => StmtKind.sameBy_iff_of_paired fun _ h => by
    cases h with
    | typeSwitch _ _ _ i' a' s' =>
      unfold StmtKind.sameBy StmtKind.moved
      simp only [StmtKind.typeSwitch.injEq, Bool.and_eq_true, and_assoc, Stmt.sameOption_iff i i',
        Stmt.sameBy_iff a a', Block.sameBy_iff s s']
  | .commClause c s => StmtKind.sameBy_iff_of_paired fun _ h => by
    cases h with
    | commClause _ _ c' s' =>
      unfold StmtKind.sameBy StmtKind.moved
      simp only [StmtKind.commClause.injEq, Bool.and_eq_true, Stmt.sameOption_iff c c',
        Stmt.sameList_iff s s']
  | .selectStmt s => StmtKind.sameBy_iff_of_paired fun _ h => by
    cases h with
    | selectStmt _ s' =>
      unfold StmtKind.sameBy StmtKind.moved
      simp only [StmtKind.selectStmt.injEq, Block.sameBy_iff s s']
  | .forStmt i c q s => StmtKind.sameBy_iff_of_paired fun _ h => by
    cases h with
    | forStmt _ _ _ _ i' c' q' s' =>
      unfold StmtKind.sameBy StmtKind.moved
      simp only [StmtKind.forStmt.injEq, Bool.and_eq_true, and_assoc, Stmt.sameOption_iff i i',
        Expr.sameOption_iff c c', Stmt.sameOption_iff q q', Block.sameBy_iff s s']
  | .rangeStmt k v t x s => StmtKind.sameBy_iff_of_paired fun _ h => by
    cases h with
    | rangeStmt _ _ _ _ _ k' v' t' x' s' =>
      unfold StmtKind.sameBy StmtKind.moved
      simp only [StmtKind.rangeStmt.injEq, Bool.and_eq_true, and_assoc, beq_iff_eq,
        Expr.sameOption_iff k k',
        Expr.sameOption_iff v v', Expr.sameBy_iff x x', Block.sameBy_iff s s']
termination_by structural a => a

theorem GenDecl.sameBy_iff : ∀ a b : GenDecl, a.sameBy p b = true ↔ a.moved g = b.moved g
  | .mk t _ g ss, .mk t' _ g' ss' => by
    simp [GenDecl.sameBy, GenDecl.moved, Spec.sameList_iff ss ss', hp, and_assoc]
termination_by structural a => a

theorem Spec.sameBy_iff : ∀ a b : Spec, a.sameBy p b = true ↔ a.moved g = b.moved g
  | .imported i, b => by
    cases b with
    | imported i' => simp [Spec.sameBy, Spec.moved, ImportSpec.sameBy_iff hp]
    | _ => simp [Spec.sameBy, Spec.moved]
  | .value ns t vs, b => by
    cases b with
    | value ns' t' vs' => simp [Spec.sameBy, Spec.moved, GoRebuild.sameList_iff (Ident.sameBy_iff hp),
        Expr.sameOption_iff t t', Expr.sameList_iff vs vs', and_assoc]
    | _ => simp [Spec.sameBy, Spec.moved]
  | .type n a t, b => by
    cases b with
    | type n' a' t' => simp [Spec.sameBy, Spec.moved, Ident.sameBy_iff hp, Expr.sameBy_iff t t', and_assoc]
    | _ => simp [Spec.sameBy, Spec.moved]
termination_by structural a => a

theorem Spec.sameList_iff : ∀ a b : List Spec,
    Spec.sameList p a b = true ↔ Spec.movedList g a = Spec.movedList g b
  | [], b => by cases b <;> simp [Spec.sameList, Spec.movedList]
  | x :: xs, b => by
    cases b with
    | nil => simp [Spec.sameList, Spec.movedList]
    | cons y ys => simp [Spec.sameList, Spec.movedList, Spec.sameBy_iff x y, Spec.sameList_iff xs ys]
termination_by structural a => a

end

theorem FuncDecl.sameBy_iff (a b : FuncDecl) : a.sameBy p b = true ↔ a.moved g = b.moved g := by
  simp [FuncDecl.sameBy, FuncDecl.moved, hp, Field.sameResults_iff hp, Ident.sameBy_iff hp, FuncType.sameBy_iff hp,
    GoRebuild.sameOption_iff (Block.sameBy_iff hp), and_assoc]

theorem Decl.sameBy_iff (a b : Decl) : a.sameBy p b = true ↔ a.moved g = b.moved g := by
  cases a <;> cases b <;> simp [Decl.sameBy, Decl.moved, GenDecl.sameBy_iff hp, FuncDecl.sameBy_iff hp]

theorem File.sameBy_iff (a b : File) : a.sameBy p b = true ↔ a.moved g = b.moved g := by
  simp [File.sameBy, File.moved, Ident.sameBy_iff hp, GoRebuild.sameList_iff (ImportSpec.sameBy_iff hp),
    GoRebuild.sameList_iff (Decl.sameBy_iff hp), and_assoc]

end

/-! ## Alike trees -/

theorem Expr.alike_iff {a b : Expr} : a.alike b ↔ a.moved .nowhere = b.moved .nowhere :=
  Expr.sameBy_iff (fun _ _ => iff_of_true rfl rfl) a b

theorem Stmt.alike_iff {a b : Stmt} : a.alike b ↔ a.moved .nowhere = b.moved .nowhere :=
  Stmt.sameBy_iff (fun _ _ => iff_of_true rfl rfl) a b

theorem Decl.alike_iff {a b : Decl} : a.alike b ↔ a.moved .nowhere = b.moved .nowhere :=
  Decl.sameBy_iff (fun _ _ => iff_of_true rfl rfl) a b

theorem File.alike_iff {a b : File} : a.alike b ↔ a.moved .nowhere = b.moved .nowhere :=
  File.sameBy_iff (fun _ _ => iff_of_true rfl rfl) a b

end GoRebuild
