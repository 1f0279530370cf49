import GoRebuild.Proofs.Nesting.Outline
import GoRebuild.Proofs.Synth.Depth

/-!
# Synthesis follows the outline of a tree

* `Construct`, `Construct.refusal?` : the constructs that synthesis looks at, and which of them have no chain;
* `Expr.outline`, `Stmt.outline`, `GenDecl.outline`, `FuncDecl.outline`, `Decl.outline` : what synthesis comes
  across in a tree, in its order. The base of a qualified selector and the dots of an array length are not
  looked at, and the function type of an interface method is no level of nesting of its own;
* `Decl.outline_limit` : a declaration has one outline for each symbol table, whatever the limit;
* `Synth.Follows act o` : a computation succeeds where a walk along an outline does, and fails for the same
  reason where it does not (`Follows.bind`, `Follows.nested`);
* `Expr.follows_synth`, `Stmt.follows_synth`, `Decl.follows_synth` : every rule follows the outline of its tree;
* `Follows.balanced`, `Follows.answers_iff`, `Follows.failure` : such a computation gives the counter back; when it
  answers, and why it fails.
-/

namespace GoRebuild
open Outline

/-! ## What has no chain -/

/-- A construct that synthesis looks at, at a position. -/
inductive Construct where
  | expr (kind : ExprKind)
  | stmt (kind : StmtKind)
  | decl (tok : DeclToken)
  | spec (spec : Spec)
  | element (field : Field)

/-- What is said of a construct without a chain, and where: of source that could not be read, imaginary literals,
declarations of imports and single imports, and elements of an interface that are neither a method nor unnamed. -/
def Construct.refusal? (pos : Pos) : Construct → Option (String × Pos)
  | expr (.bad kind) | stmt (.bad kind) => some (kind, pos)
  | expr (.basicLit ⟨.imag, _⟩) => some ("imaginary literal", pos)
  | decl .importTok => some ("nested import declaration", pos)
  | spec (.imported i) =>
    some ("import of " ++ Text.Escaped.display i.path ++ " outside an import declaration", pos)
  | element (.mk [] _ _) | element (.mk [_] (.mk (.funcType _) _) _) => none
  | element (.mk _ t _) => some ("interface element", t.pos)
  | _ => none

/-- The refusal of a construct, if it has no chain. -/
def Construct.outline (pos : Pos) (c : Construct) : Outline Pos :=
  match c.refusal? pos with
  | some (kind, pos) => refusal kind pos
  | none => done

/-! ## Outlines of trees -/

variable (s : Scope)

mutual

def Expr.outline : Expr → Outline Pos
  | .mk k p => node p ((Construct.expr k).outline p ++ k.outline)

def ExprKind.outline : ExprKind → Outline Pos
  | .bad _ | .ident _ | .basicLit _ => done
  | .ellipsis t => Expr.outlineOption t
  | .funcLit t b => t.outline ++ b.outline
  | .compositeLit t es => Expr.outlineOption t ++ Expr.outlineList es
  | .paren x | .star x | .unary _ x | .chanType _ x => x.outline
  | .selector x _ =>
    match s.qualifier? x with
    | some _ => done
    | none => x.outline
  | .index x i => i.outline ++ x.outline
  | .slice x low high max slice3 =>
    Expr.outlineOption low ++ (Expr.outlineOption high ++
      ((if slice3 then Expr.outlineOption max else done) ++ x.outline))
  | .typeAssert x t => Expr.outlineOption t ++ x.outline
  | .call f as _ => Expr.outlineList as ++ f.outline
  | .binary x _ y | .keyValue x y | .mapType x y => x.outline ++ y.outline
  | .arrayType n t => Expr.outlineLength n ++ t.outline
  | .structType fs => Field.outlineList fs
  | .funcType t => t.outline
  | .interfaceType ms => Field.outlineElements ms

def Expr.outlineOption : Option Expr → Outline Pos
  | none => done
  | some x => x.outline

/-- The length of an array type. -/
def Expr.outlineLength : Option Expr → Outline Pos
  | none | some (.mk (.ellipsis none) _) => done
  | some n => n.outline

def Expr.outlineList : List Expr → Outline Pos
  | [] => done
  | x :: xs => x.outline ++ Expr.outlineList xs

def FuncType.outline : FuncType → Outline Pos
  | .mk ps none => Field.outlineList ps
  | .mk ps (some rs) => Field.outlineList ps ++ Field.outlineList rs

def Field.outlineList : List Field → Outline Pos
  | [] => done
  | .mk _ t _ :: fs => t.outline ++ Field.outlineList fs

def Field.outlineElements : List Field → Outline Pos
  | [] => done
  | .mk [_] (.mk (.funcType t) _) _ :: fs => t.outline ++ Field.outlineElements fs
  | .mk [] t _ :: fs => t.outline ++ Field.outlineElements fs
  | .mk ns t tag :: fs => (Construct.element (.mk ns t tag)).outline t.pos ++ Field.outlineElements fs

def Block.outline : Block → Outline Pos
  | .mk ss _ => Stmt.outlineList ss

def Stmt.outline : Stmt → Outline Pos
  | .mk k p => node p ((Construct.stmt k).outline p ++ k.outline)

def Stmt.outlineList : List Stmt → Outline Pos
  | [] => done
  | x :: xs => x.outline ++ Stmt.outlineList xs

def Stmt.outlineOption : Option Stmt → Outline Pos
  | none => done
  | some x => x.outline

/-- What is in a statement. The variables of a `range` without an operator are not looked at. -/
def StmtKind.outline : StmtKind → Outline Pos
  | .bad _ | .empty | .branch _ _ => done
  | .decl d => d.outline
  | .labeled _ x => x.outline
  | .expr x | .incDec x _ | .goStmt x | .deferStmt x => x.outline
  | .send x y => x.outline ++ y.outline
  | .assign l _ r => Expr.outlineList l ++ Expr.outlineList r
  | .returnStmt rs => Expr.outlineList rs
  | .block b | .selectStmt b => b.outline
  | .ifStmt i c b e => Stmt.outlineOption i ++ (c.outline ++ (b.outline ++ Stmt.outlineOption e))
  | .caseClause xs b => Expr.outlineList xs ++ Stmt.outlineList b
  | .switchStmt i t b => Stmt.outlineOption i ++ (Expr.outlineOption t ++ b.outline)
  | .typeSwitch i a b => Stmt.outlineOption i ++ (a.outline ++ b.outline)
  | .commClause c b => Stmt.outlineOption c ++ Stmt.outlineList b
  | .forStmt i c p b =>
    Stmt.outlineOption i ++ (Expr.outlineOption c ++ (Stmt.outlineOption p ++ b.outline))
  | .rangeStmt _ _ none x b => x.outline ++ b.outline
  | .rangeStmt k v (some _) x b =>
    x.outline ++ (Expr.outlineOption k ++ (Expr.outlineOption v ++ b.outline))

def GenDecl.outline : GenDecl → Outline Pos
  | .mk tok p _ xs => node p ((Construct.decl tok).outline p ++ Spec.outlineList p xs)

def Spec.outline (pos : Pos) : Spec → Outline Pos
  | .imported i => (Construct.spec (.imported i)).outline pos
  | .value _ t vs => Expr.outlineOption t ++ Expr.outlineList vs
  | .type _ _ t => t.outline

def Spec.outlineList (pos : Pos) : List Spec → Outline Pos
  | [] => done
  | x :: xs => x.outline pos ++ Spec.outlineList pos xs

end

/-- The base of a selector is looked at unless it is the name of an imported package. -/
theorem ExprKind.outline_selector (x : Expr) (sel : Ident) :
    ExprKind.outline s (.selector x sel) =
      match s.qualifier? x with
      | some _ => done
      | none => x.outline s := rfl

/-- A length other than the dots is looked at like any other expression. -/
theorem Expr.outlineLength_eq {n : Expr} (hn : ¬∃ p, n = .mk (.ellipsis none) p) :
    Expr.outlineLength s (some n) = n.outline s := by
  obtain ⟨k, p⟩ := n
  cases k with
  | ellipsis t =>
    cases t with
    | none => exact absurd ⟨p, rfl⟩ hn
    | some _ => rfl
  | _ => rfl

def Field.outlineReceiver : Option (List Field) → Outline Pos
  | none => done
  | some fs => Field.outlineList s fs

def Block.outlineOption : Option Block → Outline Pos
  | none => done
  | some b => b.outline s

def FuncDecl.outline (d : FuncDecl) : Outline Pos :=
  node d.pos (Field.outlineReceiver s d.recv ++ (d.ty.outline s ++ Block.outlineOption s d.body))

/-- A declaration at top level. Imports are passed over whole. -/
def Decl.outline : Decl → Outline Pos
  | .gen (.mk .importTok _ _ _) => done
  | .gen d => d.outline s
  | .func d => d.outline s

/-! ## The limit -/

section
variable (table : SymbolTable) (l l' : Nat)

-- Outlines read nothing of the scope but its table, so that for two limits they are one recursion.

theorem Field.outlineList_limit : Field.outlineList ⟨table, l⟩ = Field.outlineList ⟨table, l'⟩ := by
  delta Field.outlineList
  rfl

theorem FuncType.outline_limit : FuncType.outline ⟨table, l⟩ = FuncType.outline ⟨table, l'⟩ := by
  delta FuncType.outline
  rfl

theorem Block.outline_limit : Block.outline ⟨table, l⟩ = Block.outline ⟨table, l'⟩ := by
  delta Block.outline
  rfl

theorem GenDecl.outline_limit : GenDecl.outline ⟨table, l⟩ = GenDecl.outline ⟨table, l'⟩ := by
  delta GenDecl.outline
  rfl

theorem Decl.outline_limit (d : Decl) : d.outline ⟨table, l⟩ = d.outline ⟨table, l'⟩ := by
  unfold Decl.outline FuncDecl.outline Field.outlineReceiver Block.outlineOption
  rw [GenDecl.outline_limit table l l', FuncType.outline_limit table l l', Field.outlineList_limit table l l',
    Block.outline_limit table l l']

end

/-! ## Computations along an outline -/

/-- The failure of a pass as synthesis tells it. -/
def Stop.synthError (limit : Nat) : Stop Pos → SynthError
  | .refused kind pos => .unsupported kind pos
  | .tooDeep pos => .tooDeep limit pos

namespace Synth

variable {s}
variable {α β : Type} {act : Synth α} {o p : Outline Pos}

/-- At every depth a computation succeeds if a walk along an outline does, fails as the walk does, and comes
back to where it was. -/
def Follows (s : Scope) (act : Synth α) (o : Outline Pos) : Prop :=
  ∀ depth, (act.run.run depth).2 = depth ∧
    (act.run.run depth).1.map (fun _ => ()) = (o.walk s.limit depth).mapError (Stop.synthError s.limit)

theorem follows_pure (a : α) : Follows s (pure a) done := fun _ => ⟨rfl, rfl⟩

theorem follows_unsupported (kind : String) (pos : Pos) (o : Outline Pos) :
    Follows s (unsupported kind pos : Synth α) (refusal kind pos ++ o) := fun _ => ⟨rfl, rfl⟩

theorem Follows.bind (h : Follows s act o) {f : α → Synth β} (hf : ∀ a, Follows s (f a) p) :
    Follows s (act >>= f) (o ++ p) := by
  intro depth
  obtain ⟨hdepth, hact⟩ := h depth
  rw [run_bind, walk_append]
  rcases hrun : act.run.run depth with ⟨r, d⟩
  rw [hrun] at hdepth hact
  subst hdepth
  cases r with
  | ok a =>
    cases hwalk : o.walk s.limit d with
    | ok u => exact hf a d
    | error e =>
      rw [hwalk] at hact
      cases hact
  | error e =>
    cases hwalk : o.walk s.limit d with
    | ok u =>
      rw [hwalk] at hact
      cases hact
    | error stop =>
      rw [hwalk] at hact
      exact ⟨rfl, hact⟩

/-- A step whose result is only passed on. -/
theorem Follows.map (h : Follows s act o) (f : α → β) : Follows s (act >>= fun a => pure (f a)) o := by
  have hbind := h.bind fun a => follows_pure (f a)
  rwa [append_done] at hbind

/-- A step that only gives a result. -/
theorem follows_pure_bind (a : α) {f : α → Synth β} (h : Follows s (f a) o) : Follows s (pure a >>= f) o := by
  intro depth
  rw [run_bind]
  exact h depth

theorem Follows.nested (pos : Pos) (h : Follows s act o) : Follows s (nested s pos act) (node pos o) := by
  intro depth
  rw [walk_node]
  change (Synth.nested s pos act depth).2 = depth ∧ (Synth.nested s pos act depth).1.map _ = _
  unfold Synth.nested
  split
  · exact ⟨rfl, rfl⟩
  · obtain ⟨hdepth, hact⟩ := h (depth + 1)
    change (act (depth + 1)).2 - 1 = depth ∧ _
    change (act (depth + 1)).2 = depth + 1 at hdepth
    exact ⟨by omega, hact⟩

end Synth

open Synth

theorem BasicLit.follows_synth (l : BasicLit) (pos : Pos) :
    Follows s (l.synth pos) ((Construct.expr (.basicLit l)).outline pos) := by
  obtain ⟨kind, value⟩ := l
  cases kind with
  | int =>
    unfold BasicLit.synth
    dsimp only
    split <;> exact follows_pure _
  | imag => exact follows_unsupported _ _ done
  | _ => exact follows_pure _

/-! ## Expressions, statements and declarations -/

mutual

theorem Expr.follows_synth : ∀ e : Expr, Follows s (e.synth s) (e.outline s)
  | .mk k p => (ExprKind.follows_synth p k).nested p

theorem ExprKind.follows_synth (pos : Pos) : ∀ k : ExprKind,
    Follows s (k.synth s pos) ((Construct.expr k).outline pos ++ k.outline s)
  | .bad _ => follows_unsupported _ _ done
  | .ident _ => follows_pure _
  | .ellipsis none => follows_pure _
  | .ellipsis (some t) => (Expr.follows_synth t).map _
  | .basicLit l => by
    change Follows s _ (_ ++ done)
    rw [append_done]
    exact l.follows_synth s pos
  | .funcLit t b => (FuncType.follows_signature t).bind fun _ => (Block.follows_synth b).map _
  | .compositeLit none es => follows_pure_bind _ ((Expr.follows_synthList es).map _)
  | .compositeLit (some t) es => (Expr.follows_synth t).bind fun _ => (Expr.follows_synthList es).map _
  | .paren x => (Expr.follows_synth x).map _
  | .selector x sel => by
    have hx := Expr.follows_synth x
    rw [ExprKind.synth_selector, ExprKind.outline_selector]
    cases s.qualifier? x with
    | some path => exact follows_pure _
    | none => exact hx.map _
  | .index x i => (Expr.follows_synth i).bind fun _ => (Expr.follows_synth x).map _
  | .slice x low high _ false =>
    (Expr.follows_synthSlot low).bind fun _ => (Expr.follows_synthSlot high).bind fun _ =>
      follows_pure_bind _ ((Expr.follows_synth x).map _)
  | .slice x low high max true =>
    (Expr.follows_synthSlot low).bind fun _ => (Expr.follows_synthSlot high).bind fun _ =>
      (Expr.follows_synthSlot max).bind fun _ => follows_pure_bind _ ((Expr.follows_synth x).map _)
  | .typeAssert x none => follows_pure_bind _ ((Expr.follows_synth x).map _)
  | .typeAssert x (some t) => (Expr.follows_synth t).bind fun _ => (Expr.follows_synth x).map _
  | .call f as _ => (Expr.follows_synthList as).bind fun _ => (Expr.follows_synth f).map _
  | .star x => (Expr.follows_synth x).map _
  | .unary _ x => (Expr.follows_synth x).map _
  | .binary x _ y => (Expr.follows_synth x).bind fun _ => (Expr.follows_synth y).map _
  | .keyValue k v => (Expr.follows_synth k).bind fun _ => (Expr.follows_synth v).map _
  | .arrayType none t => (Expr.follows_synth t).map _
  | .arrayType (some n) t => by
    have hn := Expr.follows_synth n
    have ht := Expr.follows_synth t
    by_cases hdots : ∃ p, n = .mk (.ellipsis none) p
    · obtain ⟨p, rfl⟩ := hdots
      exact ht.map _
    · rw [← Expr.outlineLength_eq s hdots] at hn
      rw [ExprKind.synth_arrayType s pos hdots]
      exact hn.bind fun _ => ht.map _
  | .structType fs => (Field.follows_synthList fs).map _
  | .funcType t => (FuncType.follows_signature t).map _
  | .interfaceType ms => (Field.follows_synthElements ms).map _
  | .mapType k v => (Expr.follows_synth k).bind fun _ => (Expr.follows_synth v).map _
  | .chanType _ v => (Expr.follows_synth v).map _

theorem Expr.follows_synthList : ∀ xs : List Expr, Follows s (Expr.synthList s xs) (Expr.outlineList s xs)
  | [] => follows_pure _
  | x :: xs => (Expr.follows_synth x).bind fun _ => (Expr.follows_synthList xs).map _

theorem Expr.follows_synthSlot : ∀ x : Option Expr, Follows s (Expr.synthSlot s x) (Expr.outlineOption s x)
  | none => follows_pure _
  | some x => Expr.follows_synth x

theorem Expr.follows_synthPresent : ∀ x : Option Expr, Follows s (Expr.synthPresent s x) (Expr.outlineOption s x)
  | none => follows_pure _
  | some x => (Expr.follows_synth x).map _

theorem FuncType.follows_signature : ∀ t : FuncType, Follows s (t.signature s) (t.outline s)
  | .mk ps none => (Field.follows_synthList ps).map _
  | .mk ps (some [.mk [] t _]) =>
    (Field.follows_synthList ps).bind fun _ => by
      rw [Field.outlineList, Field.outlineList, append_done]
      exact (Expr.follows_synth t).map _
  | .mk ps (some []) => (Field.follows_synthList ps).bind fun _ => (Field.follows_synthList []).map _
  | .mk ps (some (.mk (n :: ns) t tag :: rs)) =>
    (Field.follows_synthList ps).bind fun _ =>
      (Field.follows_synthList (.mk (n :: ns) t tag :: rs)).map _
  | .mk ps (some (.mk [] t tag :: f :: rs)) =>
    (Field.follows_synthList ps).bind fun _ =>
      (Field.follows_synthList (.mk [] t tag :: f :: rs)).map _

theorem Field.follows_synthList : ∀ fs : List Field, Follows s (Field.synthList s fs) (Field.outlineList s fs)
  | [] => follows_pure _
  | .mk _ t none :: fs =>
    ((Expr.follows_synth t).map _).bind fun _ => (Field.follows_synthList fs).map _
  | .mk _ t (some _) :: fs =>
    ((Expr.follows_synth t).map _).bind fun _ => (Field.follows_synthList fs).map _

theorem Field.follows_synthElements : ∀ fs : List Field,
    Follows s (Field.synthElements s fs) (Field.outlineElements s fs)
  | [] => follows_pure _
  | .mk [] t _ :: fs => (Expr.follows_synth t).bind fun _ => (Field.follows_synthElements fs).map _
  | .mk [n] (.mk k p) tag :: fs => by
    have hfs := Field.follows_synthElements fs
    cases k with
    | funcType t => exact (FuncType.follows_signature t).bind fun _ => hfs.map _
    | _ => exact follows_unsupported _ _ _
  | .mk (_ :: _ :: _) _ _ :: _ => follows_unsupported _ _ _

theorem Block.follows_synth : ∀ b : Block, Follows s (b.synth s) (b.outline s)
  | .mk ss _ => (Stmt.follows_synthList ss).map _

theorem Stmt.follows_synth : ∀ x : Stmt, Follows s (x.synth s) (x.outline s)
  | .mk k p => (StmtKind.follows_synth p k).nested p

theorem Stmt.follows_synthList : ∀ ss : List Stmt, Follows s (Stmt.synthList s ss) (Stmt.outlineList s ss)
  | [] => follows_pure _
  | x :: xs => (Stmt.follows_synth x).bind fun _ => (Stmt.follows_synthList xs).map _

theorem Stmt.follows_synthSlot : ∀ x : Option Stmt, Follows s (Stmt.synthSlot s x) (Stmt.outlineOption s x)
  | none => follows_pure _
  | some x => Stmt.follows_synth x

theorem Stmt.follows_synthInit : ∀ x : Option Stmt, Follows s (Stmt.synthInit s x) (Stmt.outlineOption s x)
  | none => follows_pure _
  | some x => (Stmt.follows_synth x).map _

theorem StmtKind.follows_synth (pos : Pos) : ∀ k : StmtKind,
    Follows s (k.synth s pos) ((Construct.stmt k).outline pos ++ k.outline s)
  | .bad _ => follows_unsupported _ _ done
  | .decl d => GenDecl.follows_synth d
  | .empty => follows_pure _
  | .labeled _ x => (Stmt.follows_synth x).map _
  | .expr x => Expr.follows_synth x
  | .send c v => (Expr.follows_synth c).bind fun _ => (Expr.follows_synth v).map _
  | .incDec x _ => (Expr.follows_synth x).map _
  | .assign l _ r => (Expr.follows_synthList l).bind fun _ => (Expr.follows_synthList r).map _
  | .goStmt c => (Expr.follows_synth c).map _
  | .deferStmt c => (Expr.follows_synth c).map _
  | .returnStmt rs => (Expr.follows_synthList rs).map _
  | .branch _ none => follows_pure _
  | .branch _ (some _) => follows_pure _
  | .block b => Block.follows_synth b
  | .ifStmt i c b none =>
    (Stmt.follows_synthInit i).bind fun _ => (Expr.follows_synth c).bind fun _ => by
      rw [Stmt.outlineOption, append_done]
      exact (Block.follows_synth b).map _
  | .ifStmt i c b (some e) =>
    (Stmt.follows_synthInit i).bind fun _ => (Expr.follows_synth c).bind fun _ =>
      (Block.follows_synth b).bind fun _ => (Stmt.follows_synth e).map _
  | .caseClause [] b => follows_pure_bind _ ((Stmt.follows_synthList b).map _)
  | .caseClause (x :: xs) b => by
    change Follows s _ ((x.outline s ++ Expr.outlineList s xs) ++ _)
    rw [append_assoc]
    exact (Expr.follows_synth x).bind fun _ => (Expr.follows_synthList xs).bind fun _ =>
      follows_pure_bind _ ((Stmt.follows_synthList b).map _)
  | .switchStmt i none b =>
    (Stmt.follows_synthInit i).bind fun _ => follows_pure_bind _ ((Block.follows_synth b).map _)
  | .switchStmt i (some t) b =>
    (Stmt.follows_synthInit i).bind fun _ => (Expr.follows_synth t).bind fun _ =>
      follows_pure_bind _ ((Block.follows_synth b).map _)
  | .typeSwitch i a b =>
    (Stmt.follows_synthInit i).bind fun _ => (Stmt.follows_synth a).bind fun _ =>
      (Block.follows_synth b).map _
  | .commClause none b => follows_pure_bind _ ((Stmt.follows_synthList b).map _)
  | .commClause (some c) b =>
    (Stmt.follows_synth c).bind fun _ => follows_pure_bind _ ((Stmt.follows_synthList b).map _)
  | .selectStmt b => (Block.follows_synth b).map _
  | .forStmt none none none b => follows_pure_bind _ ((Block.follows_synth b).map _)
  | .forStmt none (some c) none b =>
    (Expr.follows_synth c).bind fun _ => follows_pure_bind _ ((Block.follows_synth b).map _)
  | .forStmt none c (some p) b =>
    (Stmt.follows_synthSlot none).bind fun _ => (Expr.follows_synthSlot c).bind fun _ =>
      (Stmt.follows_synthSlot (some p)).bind fun _ => (Block.follows_synth b).map _
  | .forStmt (some i) c p b =>
    (Stmt.follows_synthSlot (some i)).bind fun _ => (Expr.follows_synthSlot c).bind fun _ =>
      (Stmt.follows_synthSlot p).bind fun _ => (Block.follows_synth b).map _
  | .rangeStmt _ _ none x b =>
    (Expr.follows_synth x).bind fun _ => follows_pure_bind _ ((Block.follows_synth b).map _)
  | .rangeStmt k v (some _) x b =>
    (Expr.follows_synth x).bind fun _ => (Expr.follows_synthPresent k).bind fun _ =>
      (Expr.follows_synthPresent v).bind fun _ => follows_pure_bind _ ((Block.follows_synth b).map _)

theorem GenDecl.follows_synth : ∀ d : GenDecl, Follows s (d.synth s) (d.outline s)
  | .mk tok pos grouped specs => by
    have hspecs := Spec.follows_synthList pos specs
    refine Follows.nested pos ?_
    cases tok with
    | importTok => exact follows_unsupported _ _ _
    | _ =>
      rw [← append_done (Spec.outlineList s pos specs)]
      exact follows_pure_bind _ (hspecs.bind fun _ => by split <;> exact follows_pure _)

theorem Spec.follows_synth (pos : Pos) : ∀ x : Spec, Follows s (x.synth s pos) (x.outline s pos)
  | .imported _ => follows_unsupported _ _ done
  | .value _ none [] => (follows_pure _).map _
  | .value _ (some t) [] => by
    change Follows s _ (t.outline s ++ done)
    rw [append_done]
    exact (Expr.follows_synth t).map _
  | .value _ none (v :: vs) =>
    follows_pure_bind _ ((Expr.follows_synth v).bind fun _ => (Expr.follows_synthList vs).map _)
  | .value _ (some t) (v :: vs) =>
    (Expr.follows_synth t).bind fun _ => (Expr.follows_synth v).bind fun _ =>
      (Expr.follows_synthList vs).map _
  | .type _ _ t => (Expr.follows_synth t).map _

theorem Spec.follows_synthList (pos : Pos) : ∀ xs : List Spec,
    Follows s (Spec.synthList s pos xs) (Spec.outlineList s pos xs)
  | [] => follows_pure _
  | x :: xs => (Spec.follows_synth pos x).bind fun _ => (Spec.follows_synthList pos xs).map _

end

theorem FuncDecl.follows_synth : ∀ d : FuncDecl, Follows s (d.synth s) (d.outline s)
  | ⟨none, _, t, none, pos⟩ => Follows.nested pos <| follows_pure_bind _ <|
    (t.follows_signature s).bind fun _ => follows_pure_bind _ (follows_pure _)
  | ⟨none, _, t, some b, pos⟩ => Follows.nested pos <| follows_pure_bind _ <|
    (t.follows_signature s).bind fun _ => (b.follows_synth s).map _
  | ⟨some fs, _, t, none, pos⟩ => Follows.nested pos <| (Field.follows_synthList s fs).bind fun _ =>
    follows_pure_bind _ <| (t.follows_signature s).bind fun _ => follows_pure_bind _ (follows_pure _)
  | ⟨some fs, _, t, some b, pos⟩ => Follows.nested pos <| (Field.follows_synthList s fs).bind fun _ =>
    follows_pure_bind _ <| (t.follows_signature s).bind fun _ => (b.follows_synth s).map _

theorem Decl.follows_synth (d : Decl) : Follows s (d.synth s) (d.outline s) := by
  cases d with
  | gen d =>
    obtain ⟨tok, pos, grouped, specs⟩ := d
    cases tok with
    | importTok => exact follows_pure _
    | _ => exact (GenDecl.follows_synth s _).map _
  | func d => exact (FuncDecl.follows_synth s d).map _

theorem Expr.follows_synthListed (xs : List Expr) : Follows s (Expr.synthListed s xs) (Expr.outlineList s xs) :=
  (Expr.follows_synthList s xs).map _

/-! ## Answers -/

namespace Synth

variable {s}
variable {α : Type} {act : Synth α} {o : Outline Pos}

/-- It ends as deep as it began. -/
theorem Follows.balanced (h : Follows s act o) : Balanced act :=
  fun depth => (h depth).1

/-- A computation answers exactly if its outline refuses nothing and is no higher than the limit. -/
theorem Follows.answers_iff (h : Follows s act o) :
    (∃ a, act.answer = .ok a) ↔ o.refusals = [] ∧ o.height ≤ s.limit := by
  have hact : act.answer.map (fun _ => ()) = _ := (h 0).2
  have hwalk := @walk_eq_ok_iff _ s.limit 0 o
  rw [Nat.sub_zero] at hwalk
  rw [← hwalk]
  constructor
  · rintro ⟨a, ha⟩
    rw [ha] at hact
    cases hw : o.walk s.limit 0 with
    | ok u => rfl
    | error e =>
      rw [hw] at hact
      cases hact
  · intro hw
    rw [hw] at hact
    cases ha : act.answer with
    | ok a => exact ⟨a, rfl⟩
    | error e =>
      rw [ha] at hact
      cases hact

/-- A computation fails for a refusal of its outline, or because that is higher than the limit. -/
theorem Follows.failure (h : Follows s act o) {e : SynthError} (he : act.answer = .error e) :
    (∃ kind pos, e = .unsupported kind pos ∧ (kind, pos) ∈ o.refusals) ∨
      ∃ pos, e = .tooDeep s.limit pos ∧ s.limit < o.height := by
  have hact : act.answer.map (fun _ => ()) = _ := (h 0).2
  rw [he] at hact
  cases hw : o.walk s.limit 0 with
  | ok u =>
    rw [hw] at hact
    cases hact
  | error stop =>
    rw [hw] at hact
    cases stop with
    | refused kind pos =>
      cases hact
      exact .inl ⟨kind, pos, rfl, mem_refusals_of_walk hw⟩
    | tooDeep pos =>
      cases hact
      have := lt_height_of_walk hw
      exact .inr ⟨pos, rfl, by omega⟩

end Synth

end GoRebuild
