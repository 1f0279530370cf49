import GoRebuild.Tree.Basic
import Mathlib.Data.List.Basic

/-!
# Trees whose positions are in order

`Expr.Ordered`, `Stmt.Ordered`, `Decl.Ordered` and the rest state of a tree and of all its parts:

* each position is a real one, whatever that means;
* no node starts before the node that it is part of;
* in lists of names, expressions, fields, statements, entries and declarations each starts behind the start of the one
  before it (`Expr.AllOrdered`, `Stmt.AllOrdered`).

The number in each statement is the offset before which nothing may start.

* `File.Ordered` : a file;
* `Decl.AllOrdered.pairwise` : each declaration starts behind the start of the one before it.
-/

namespace GoRebuild

section
variable (real : Pos → Prop)

/-- A real position, no earlier than an offset. -/
def Pos.Ordered (lo : Nat) (p : Pos) : Prop :=
  lo ≤ p.offset.toNat ∧ real p

/-- Names in order. -/
def Ident.AllOrdered : Nat → List Ident → Prop
  | _, [] => True
  | lo, n :: ns => n.pos.Ordered real lo ∧ Ident.AllOrdered (n.pos.offset.toNat + 1) ns

/-- Where a field starts: at its first name, or at its type. -/
def Field.start : Field → Pos
  | .mk (n :: _) _ _ => n.pos
  | .mk [] t _ => t.pos

/-- Where an entry of a declaration starts: at its first name, or at its import. -/
def Spec.start : Spec → Pos
  | .imported i => i.pos
  | .value (n :: _) _ _ => n.pos
  | .value [] _ _ => .none
  | .type n _ _ => n.pos

mutual

/-- An expression or type. -/
def Expr.Ordered (lo : Nat) : Expr → Prop
  | .mk k p => p.Ordered real lo ∧ k.Ordered p.offset.toNat

def ExprKind.Ordered (lo : Nat) : ExprKind → Prop
  | .bad _ | .ident _ | .basicLit _ => True
  | .ellipsis t => Expr.OptionOrdered lo t
  | .funcLit t b => t.Ordered lo ∧ b.Ordered lo
  | .compositeLit t es => Expr.OptionOrdered lo t ∧ Expr.AllOrdered lo es
  | .paren x | .star x | .unary _ x | .chanType _ x => x.Ordered lo
  | .selector x m => x.Ordered lo ∧ m.pos.Ordered real lo
  | .index x y | .binary x _ y | .keyValue x y | .mapType x y => x.Ordered lo ∧ y.Ordered lo
  | .slice x low high max _ =>
    x.Ordered lo ∧ Expr.OptionOrdered lo low ∧ Expr.OptionOrdered lo high ∧ Expr.OptionOrdered lo max
  | .typeAssert x t => x.Ordered lo ∧ Expr.OptionOrdered lo t
  | .call f as _ => f.Ordered lo ∧ Expr.AllOrdered lo as
  | .arrayType n t => Expr.OptionOrdered lo n ∧ t.Ordered lo
  | .structType fs | .interfaceType fs => Field.AllOrdered lo fs
  | .funcType t => t.Ordered lo

def Expr.OptionOrdered (lo : Nat) : Option Expr → Prop
  | none => True
  | some x => x.Ordered lo

def Expr.AllOrdered (lo : Nat) : List Expr → Prop
  | [] => True
  | x :: xs => x.Ordered lo ∧ Expr.AllOrdered (x.pos.offset.toNat + 1) xs

def FuncType.Ordered (lo : Nat) : FuncType → Prop
  | .mk ps none => Field.AllOrdered lo ps
  | .mk ps (some rs) => Field.AllOrdered lo ps ∧ Field.AllOrdered lo rs

/-- A field, its type no earlier than its first name. -/
def Field.Ordered (lo : Nat) : Field → Prop
  | .mk [] t _ => t.Ordered lo
  | .mk (n :: ns) t _ => Ident.AllOrdered real lo (n :: ns) ∧ t.Ordered n.pos.offset.toNat

def Field.AllOrdered (lo : Nat) : List Field → Prop
  | [] => True
  | f :: fs => f.Ordered lo ∧ Field.AllOrdered (f.start.offset.toNat + 1) fs

def Block.Ordered (lo : Nat) : Block → Prop
  | .mk ss p => p.Ordered real lo ∧ Stmt.AllOrdered p.offset.toNat ss

def Stmt.Ordered (lo : Nat) : Stmt → Prop
  | .mk k p => p.Ordered real lo ∧ k.Ordered p.offset.toNat

def Stmt.AllOrdered (lo : Nat) : List Stmt → Prop
  | [] => True
  | x :: xs => x.Ordered lo ∧ Stmt.AllOrdered (x.pos.offset.toNat + 1) xs

def Stmt.OptionOrdered (lo : Nat) : Option Stmt → Prop
  | none => True
  | some x => x.Ordered lo

def StmtKind.Ordered (lo : Nat) : StmtKind → Prop
  | .bad _ | .empty | .branch _ none => True
  | .branch _ (some n) => n.pos.Ordered real lo
  | .decl d => d.Ordered lo
  | .labeled n x => n.pos.Ordered real lo ∧ x.Ordered lo
  | .expr x | .incDec x _ | .goStmt x | .deferStmt x => x.Ordered lo
  | .send x y => x.Ordered lo ∧ y.Ordered lo
  | .assign l _ r => Expr.AllOrdered lo l ∧ Expr.AllOrdered lo r
  | .returnStmt rs => Expr.AllOrdered lo rs
  | .block b | .selectStmt b => b.Ordered lo
  | .ifStmt i c b e => Stmt.OptionOrdered lo i ∧ c.Ordered lo ∧ b.Ordered lo ∧ Stmt.OptionOrdered lo e
  | .caseClause xs b => Expr.AllOrdered lo xs ∧ Stmt.AllOrdered lo b
  | .switchStmt i t b => Stmt.OptionOrdered lo i ∧ Expr.OptionOrdered lo t ∧ b.Ordered lo
  | .typeSwitch i a b => Stmt.OptionOrdered lo i ∧ a.Ordered lo ∧ b.Ordered lo
  | .commClause c b => Stmt.OptionOrdered lo c ∧ Stmt.AllOrdered lo b
  | .forStmt i c p b => Stmt.OptionOrdered lo i ∧ Expr.OptionOrdered lo c ∧ Stmt.OptionOrdered lo p ∧ b.Ordered lo
  | .rangeStmt k v _ x b => Expr.OptionOrdered lo k ∧ Expr.OptionOrdered lo v ∧ x.Ordered lo ∧ b.Ordered lo

def GenDecl.Ordered (lo : Nat) : GenDecl → Prop
  | .mk _ p _ specs => p.Ordered real lo ∧ Spec.AllOrdered p.offset.toNat specs

def Spec.Ordered (lo : Nat) : Spec → Prop
  | .imported i => i.pos.Ordered real lo
  | .value ns t vs => Ident.AllOrdered real lo ns ∧ Expr.OptionOrdered lo t ∧ Expr.AllOrdered lo vs
  | .type n _ t => n.pos.Ordered real lo ∧ t.Ordered lo

def Spec.AllOrdered (lo : Nat) : List Spec → Prop
  | [] => True
  | x :: xs => x.Ordered lo ∧ Spec.AllOrdered (x.start.offset.toNat + 1) xs

end

structure FuncDecl.Ordered (lo : Nat) (d : FuncDecl) : Prop where
  pos : d.pos.Ordered real lo
  recv : ∀ fs ∈ d.recv, Field.AllOrdered real d.pos.offset.toNat fs
  name : d.name.pos.Ordered real d.pos.offset.toNat
  ty : d.ty.Ordered real d.pos.offset.toNat
  body : ∀ b ∈ d.body, b.Ordered real d.pos.offset.toNat

def Decl.Ordered (lo : Nat) : Decl → Prop
  | .gen d => GenDecl.Ordered real lo d
  | .func d => FuncDecl.Ordered real lo d

def Decl.AllOrdered : Nat → List Decl → Prop
  | _, [] => True
  | lo, d :: ds => d.Ordered real lo ∧ Decl.AllOrdered (d.pos.offset.toNat + 1) ds

/-- A file: its package name, its declarations and the list of its imports. -/
structure File.Ordered (f : File) : Prop where
  package : f.package.pos.Ordered real 0
  decls : Decl.AllOrdered real 0 f.decls
  imports : ∀ i ∈ f.imports, i.pos.Ordered real 0

end

variable {real : Pos → Prop} {lo : Nat}

theorem Decl.Ordered.at {d : Decl} (h : d.Ordered real lo) : d.pos.Ordered real lo := by
  cases d with
  | gen d => obtain ⟨tok, p, grouped, specs⟩ := d; exact h.1
  | func d => exact h.pos

theorem Decl.Ordered.mono {lo' : Nat} {d : Decl} (h : d.Ordered real lo') (hle : lo ≤ lo') : d.Ordered real lo := by
  cases d with
  | gen d => obtain ⟨tok, p, grouped, specs⟩ := d; exact ⟨⟨Nat.le_trans hle h.1.1, h.1.2⟩, h.2⟩
  | func d => exact { h with pos := ⟨Nat.le_trans hle h.pos.1, h.pos.2⟩ }

theorem Decl.AllOrdered.le {ds : List Decl} (h : Decl.AllOrdered real lo ds) : ∀ d ∈ ds, lo ≤ d.pos.offset.toNat := by
  induction ds generalizing lo with
  | nil => exact nofun
  | cons d ds ih =>
    have hle : lo ≤ d.pos.offset.toNat := (Decl.Ordered.at h.1).1
    refine List.forall_mem_cons.mpr ⟨hle, fun e he => ?_⟩
    have hbehind := ih h.2 e he
    omega

/-- Each declaration starts behind the start of the one before it. -/
theorem Decl.AllOrdered.pairwise {ds : List Decl} (h : Decl.AllOrdered real lo ds) :
    ds.Pairwise fun d e => d.pos.offset < e.pos.offset := by
  induction ds generalizing lo with
  | nil => exact .nil
  | cons d ds ih => exact .cons (fun e he => h.2.le e he) (ih h.2)

end GoRebuild
