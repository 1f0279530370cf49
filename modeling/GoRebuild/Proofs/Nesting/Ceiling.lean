import GoRebuild.Proofs.Nesting.Synthesis
import GoRebuild.Proofs.Program.Limits
import GoRebuild.Proofs.Program.Names
import GoRebuild.Proofs.Reader.Complete

/-!
# Reading is no stricter than synthesis

Reading and synthesis count the nesting of different trees. What reading counts and synthesis does not is at most one
level deep, the base of a qualified selector, and a declaration is a level of synthesis only. But the variables of a
`range` clause behind the second are read and left out of the tree, so that synthesis never sees them.

* `Node.leftOut`, `Stmt.leftOut`, `Func.leftOut`, `Item.leftOut` : how deep reading goes for what it leaves out;
* `Outline.Within o n p` : one outline is no higher than another and one level more, but for what is left out;
* `Node.read_within`, `Stmt.read_within`, `Decl.read_within`, `Item.read_within` : the outline of a derivation is
  within that of its tree;
* `leftOutAll` : how deep reading goes in the items of a source for what it leaves out;
* `File.read_iff_of_assemble`, `generate_ok_iff` : a file that is assembled is read at the same limit, unless what is
  left out is nested deeper.
-/

namespace GoRebuild.Grammar
open Lexical (Place)

/-! ## What is left out -/

/-- One level more, if there is anything. -/
def deeper (n : Nat) : Nat :=
  if n = 0 then 0 else n + 1

mutual

/-- How many levels down the deepest node is that reading visits and leaves out of the tree; 0 if there is none. -/
def Node.leftOut : Node → Nat
  | .mk k _ => deeper k.leftOut

def NodeKind.leftOut : NodeKind → Nat
  | .name _ | .literal _ | .generic _ _ => 0
  | .paren x | .star x | .unary _ x | .openArray x | .sliceOf x | .chan _ x | .select x _ => x.leftOut
  | .index x y | .assert x y | .convert x y | .binary x _ y | .keyed x y | .array x y | .map x y =>
    max x.leftOut y.leftOut
  | .slice x low high => max x.leftOut (max (Node.leftOutOption low) (Node.leftOutOption high))
  | .slice3 x low high max' =>
    max x.leftOut (max (Node.leftOutOption low) (max high.leftOut max'.leftOut))
  | .call f as => max (Arg.leftOutList as) f.leftOut
  | .composite t es => max t.leftOut (Node.leftOutList es)
  | .braces es => Node.leftOutList es
  | .func t b => max t.leftOut b.leftOut
  | .struct ms => Member.leftOutList ms
  | .interface es => Element.leftOutList es
  | .funcType t => t.leftOut

def Node.leftOutOption : Option Node → Nat
  | none => 0
  | some x => x.leftOut

def Node.leftOutList : List Node → Nat
  | [] => 0
  | x :: xs => max x.leftOut (Node.leftOutList xs)

/-- In the variables of a `range` clause behind the first: all but one more are left out. -/
def Node.leftOutMore : List Node → Nat
  | [] => 0
  | x :: xs => max x.leftOut (Node.outlineList xs).height

def Arg.leftOutList : List Arg → Nat
  | [] => 0
  | .plain x :: as | .spread x :: as => max x.leftOut (Arg.leftOutList as)

def Signature.leftOut : Signature → Nat
  | .mk ps none => Param.leftOutList ps
  | .mk ps (some rs) => max (Param.leftOutList ps) (Param.leftOutList rs)

def Param.leftOutList : List Param → Nat
  | [] => 0
  | .mk _ _ t :: ps => max t.leftOut (Param.leftOutList ps)

def Member.leftOutList : List Member → Nat
  | [] => 0
  | .named _ _ t _ :: ms | .embedded _ t _ :: ms => max t.leftOut (Member.leftOutList ms)

def Element.leftOutList : List Element → Nat
  | [] => 0
  | .method _ t :: es => max t.leftOut (Element.leftOutList es)
  | .embedded t :: es => max t.leftOut (Element.leftOutList es)
  | .union _ :: es => Element.leftOutList es

def Block.leftOut : Block → Nat
  | .mk ss _ => Stmt.leftOutList ss

def Stmt.leftOut : Stmt → Nat
  | .mk k _ => deeper k.leftOut

def Stmt.leftOutList : List Stmt → Nat
  | [] => 0
  | x :: xs => max x.leftOut (Stmt.leftOutList xs)

def Stmt.leftOutOption : Option Stmt → Nat
  | none => 0
  | some x => x.leftOut

/-- In a statement, part for part as reading comes across them. -/
def StmtKind.leftOut : StmtKind → Nat
  | .decl d => d.leftOut
  | .expr x | .step x _ | .goStmt x | .deferStmt x => x.leftOut
  | .send x y => max x.leftOut y.leftOut
  | .assign l _ r => max (Node.leftOutList l) (Node.leftOutList r)
  | .receive l _ y => max y.leftOut (Node.leftOutList l)
  | .returnStmt rs => Node.leftOutList rs
  | .labeled _ x => Stmt.leftOutOption x
  | .branch _ | .empty => 0
  | .block b => b.leftOut
  | .conditional c => c.leftOut
  | .loop h b => max b.leftOut h.leftOut
  | .switch i t cs => max (Clause.leftOutList cs) (max (Stmt.leftOutOption i) (Node.leftOutOption t))
  | .typeSwitch i ns x cs =>
    max x.leftOut (max (Node.leftOutList ns) (max (Clause.leftOutList cs) (Stmt.leftOutOption i)))
  | .select cs => CommClause.leftOutList cs

def Conditional.leftOut : Conditional → Nat
  | .mk i c b e _ => max (Else.leftOutOption e) (max (Stmt.leftOutOption i) (max c.leftOut b.leftOut))

def Else.leftOutOption : Option Else → Nat
  | none => 0
  | some (.block (.mk ss _)) => deeper (Stmt.leftOutList ss)
  | some (.chain c) => deeper c.leftOut

def LoopHeader.leftOut : LoopHeader → Nat
  | .forever => 0
  | .while c => c.leftOut
  | .steps i c p => max (Stmt.leftOutOption i) (max (Node.leftOutOption c) (Stmt.leftOutOption p))
  | .over x => x.leftOut
  | .assigning k more _ x => max k.leftOut (max (Node.leftOutMore more) x.leftOut)

def Clause.leftOutList : List Clause → Nat
  | [] => 0
  | .case x xs b _ :: cs =>
    max x.leftOut (max (Node.leftOutList xs) (max (Stmt.leftOutList b) (Clause.leftOutList cs)))
  | .otherwise b _ :: cs => max (Stmt.leftOutList b) (Clause.leftOutList cs)

def CommClause.leftOutList : List CommClause → Nat
  | [] => 0
  | .mk c b _ :: cs => max (Stmt.leftOutOption c) (max (Stmt.leftOutList b) (CommClause.leftOutList cs))

def Decl.leftOut : Decl → Nat
  | .value _ x _ => x.leftOut
  | .values _ xs _ => ValueSpec.leftOutList xs
  | .type x _ => x.leftOut
  | .types xs _ => TypeSpec.leftOutList xs

def ValueSpec.leftOut : ValueSpec → Nat
  | .mk _ _ t vs => max (Node.leftOutOption t) (Node.leftOutList vs)

def ValueSpec.leftOutList : List ValueSpec → Nat
  | [] => 0
  | x :: xs => max x.leftOut (ValueSpec.leftOutList xs)

def TypeSpec.leftOut : TypeSpec → Nat
  | .mk _ _ _ t => t.leftOut

def TypeSpec.leftOutList : List TypeSpec → Nat
  | [] => 0
  | x :: xs => max x.leftOut (TypeSpec.leftOutList xs)

end

def Param.leftOutReceiver : Option (List Param) → Nat
  | none => 0
  | some ps => Param.leftOutList ps

def Block.leftOutOption : Option Block → Nat
  | none => 0
  | some b => b.leftOut

def Func.leftOut (f : Func) : Nat :=
  max (Param.leftOutReceiver f.recv) (max (Block.leftOutOption f.body) f.sig.leftOut)

def Item.leftOut : Item → Nat
  | .func f => f.leftOut
  | .stmt (.mk (.decl d) _) => d.leftOut
  | _ => 0

end GoRebuild.Grammar

/-! ## Outlines within others -/

namespace GoRebuild
open Grammar
open Lexical (Place)

namespace Outline

variable {o o' o₁ o₂ o₃ : Outline Place} {n n' n₁ n₂ n₃ : Nat} {p p' p₁ p₂ p₃ : Outline Pos}

/-- One outline is no higher than another and one level more, but for what is left out, which is part of it. -/
structure Within (o : Outline Place) (n : Nat) (p : Outline Pos) : Prop where
  leftOut_le : n ≤ o.height
  height_le : o.height ≤ max (p.height + 1) n

namespace Within

theorem done : Within done 0 p where
  leftOut_le := Nat.le_refl 0
  height_le := Nat.zero_le _

/-- A single node is one level. -/
theorem leaf (place : Place) : Within (node place Outline.done) 0 p where
  leftOut_le := Nat.zero_le _
  height_le := by
    rw [height_node, height]
    omega

theorem append (h : Within o n p) (h' : Within o' n' p') : Within (o ++ o') (max n n') (p ++ p') where
  leftOut_le := by
    have := h.leftOut_le
    have := h'.leftOut_le
    rw [height_append]
    omega
  height_le := by
    have := h.height_le
    have := h'.height_le
    rw [height_append, height_append]
    omega

/-- Synthesis may go deeper. -/
theorem of_le (h : Within o n p) (hp : p.height ≤ p'.height) : Within o n p' where
  leftOut_le := h.leftOut_le
  height_le := by
    have := h.height_le
    omega

/-- What is read behind may come before in synthesis. -/
theorem swap (h : Within o n p) (h' : Within o' n' p') : Within (o ++ o') (max n n') (p' ++ p) :=
  (h.append h').of_le (by rw [height_append, height_append, Nat.max_comm])

theorem swap₂ (h : Within o n p) (h₁ : Within o₁ n₁ p₁) (h₂ : Within o₂ n₂ p₂) :
    Within (o ++ (o₁ ++ o₂)) (max n (max n₁ n₂)) (p₁ ++ (p₂ ++ p)) := by
  have h := h.swap (h₁.append h₂)
  rwa [append_assoc] at h

theorem swap₃ (h : Within o n p) (h₁ : Within o₁ n₁ p₁) (h₂ : Within o₂ n₂ p₂) (h₃ : Within o₃ n₃ p₃) :
    Within (o ++ (o₁ ++ (o₂ ++ o₃))) (max n (max n₁ (max n₂ n₃))) (p₁ ++ (p₂ ++ (p₃ ++ p))) := by
  have h := h.swap₂ h₁ (h₂.append h₃)
  rwa [append_assoc] at h

theorem assoc₂ (h : Within (o₁ ++ o₂ ++ o₃) (max (max n₁ n₂) n₃) p) :
    Within (o₁ ++ (o₂ ++ o₃)) (max n₁ (max n₂ n₃)) p := by
  rwa [append_assoc, Nat.max_assoc] at h

theorem assoc₃ (h : Within (o ++ o₁ ++ o₂ ++ o₃) (max (max (max n n₁) n₂) n₃) p) :
    Within (o ++ (o₁ ++ (o₂ ++ o₃))) (max n (max n₁ (max n₂ n₃))) p := by
  rw [append_assoc o, Nat.max_assoc n] at h
  have h := h.assoc₂
  rwa [append_assoc, Nat.max_assoc] at h

/-- A loop over a range: its body is read first, and what it ranges over last. -/
theorem range (h : Within o n p) (h₁ : Within o₁ n₁ p₁) (h₂ : Within o₂ n₂ p₂) (h₃ : Within o₃ n₃ p₃) :
    Within (o ++ (o₁ ++ (o₂ ++ o₃))) (max n (max n₁ (max n₂ n₃))) (p₃ ++ (p₁ ++ (p₂ ++ p))) :=
  (h.swap₃ h₁ h₂ h₃).of_le (by simp only [height_append]; omega)

/-- A list of one. -/
theorem alone (h : Within o n p) : Within o n (p ++ Outline.done) := by
  rwa [append_done]

/-- What is read and left out. -/
theorem behind (h : Within o n p) (q : Outline Place) : Within (o ++ q) (max n q.height) p where
  leftOut_le := by
    have := h.leftOut_le
    rw [height_append]
    omega
  height_le := by
    have := h.height_le
    rw [height_append]
    omega

theorem node (h : Within o n p) (start : Place) (pos : Pos) :
    Within (node start o) (deeper n) (Outline.node pos p) where
  leftOut_le := by
    have := h.leftOut_le
    rw [height_node, deeper]
    split <;> omega
  height_le := by
    have := h.height_le
    rw [height_node, height_node, deeper]
    split <;> omega

/-- Under one more node of synthesis nothing but what is left out is in the way. -/
theorem height_le_node (h : Within o n p) (pos : Pos) : o.height ≤ max (Outline.node pos p).height n := by
  rw [height_node]
  exact h.height_le

end Within

end Outline

open Outline

variable (sc : Scope)

/-- A refusal in front does not count. -/
theorem Construct.height_append (pos : Pos) (c : Construct) (p : Outline Pos) :
    p.height ≤ (c.outline pos ++ p).height := by
  rw [Outline.height_append]
  exact Nat.le_max_right _ _

theorem Expr.height_outline (k : ExprKind) (pos : Pos) :
    (k.outline sc).height + 1 ≤ ((Expr.mk k pos).outline sc).height := by
  change _ ≤ (node pos (_ ++ _)).height
  rw [height_node]
  exact Nat.succ_le_succ (Construct.height_append pos _ _)

theorem GenDecl.height_outline (d : GenDecl) :
    (Spec.outlineList sc d.pos d.specs).height + 1 ≤ (d.outline sc).height := by
  obtain ⟨tok, pos, _, specs⟩ := d
  change _ ≤ (node pos (_ ++ _)).height
  rw [height_node]
  exact Nat.succ_le_succ (Construct.height_append pos _ _)

theorem Stmt.height_outline (k : StmtKind) (pos : Pos) :
    (k.outline sc).height + 1 ≤ ((Stmt.mk k pos).outline sc).height := by
  change _ ≤ (node pos (_ ++ _)).height
  rw [height_node]
  exact Nat.succ_le_succ (Construct.height_append pos _ _)

namespace Outline.Within

variable {sc}
variable {o : Outline Place} {n : Nat}

/-- An expression in both trees. -/
theorem expr {k : ExprKind} (h : Within o n (k.outline sc)) (start : Place) (pos : Pos) :
    Within (Outline.node start o) (deeper n) ((Expr.mk k pos).outline sc) :=
  (h.node start pos).of_le (by rw [height_node]; exact Expr.height_outline sc k pos)

/-- A statement in both trees. -/
theorem stmt {k : StmtKind} (h : Within o n (k.outline sc)) (start : Place) (pos : Pos) :
    Within (Outline.node start o) (deeper n) ((Stmt.mk k pos).outline sc) :=
  (h.node start pos).of_le (by rw [height_node]; exact Stmt.height_outline sc k pos)

/-- An expression of the tree only. -/
theorem inExpr {k : ExprKind} (h : Within o n (k.outline sc)) (pos : Pos) :
    Within o n ((Expr.mk k pos).outline sc) :=
  h.of_le (Nat.le_of_succ_le (Expr.height_outline sc k pos))

/-- A statement of the tree only. -/
theorem inStmt {k : StmtKind} (h : Within o n (k.outline sc)) (pos : Pos) :
    Within o n ((Stmt.mk k pos).outline sc) :=
  h.of_le (Nat.le_of_succ_le (Stmt.height_outline sc k pos))

end Outline.Within

namespace Grammar
open Reading

/-! ## Parts that synthesis does not look at -/

/-- The length of an array is looked at. -/
theorem Node.read_length {s : Setting} {x : Node} {Q : Expr → Prop} (h : Gives (x.read s) Q) :
    Gives (x.read s) fun e => Q e ∧ Expr.outlineLength sc (some e) = e.outline sc := by
  obtain ⟨k, p⟩ := x
  intro depth e he
  have hdots := (Node.read_kind s k p depth e he).2
  refine ⟨h depth e he, Expr.outlineLength_eq sc ?_⟩
  rintro ⟨q, rfl⟩
  exact hdots rfl

/-- The base of a selector is a name where it is not looked at. -/
theorem Node.read_qualifier {s : Setting} {x : Node} (m : Ident)
    (h : Gives (x.read s) fun e => Within x.outline x.leftOut (e.outline sc)) :
    Gives (x.read s) fun e => Within x.outline x.leftOut ((ExprKind.selector e m).outline sc) := by
  obtain ⟨k, p⟩ := x
  intro depth e he
  have hname := (Node.read_kind s k p depth e he).1
  have hwithin := h depth e he
  rw [ExprKind.outline_selector]
  obtain ⟨k', q⟩ := e
  cases k' with
  | ident n =>
    obtain rfl := hname n rfl
    exact .leaf p
  | _ => exact hwithin

variable (s : Setting)

mutual

theorem Node.read_within : ∀ x : Node, Gives (x.read s) fun e => Within x.outline x.leftOut (e.outline sc)
  | .mk k p => .visit s p (.bind (k.read_within p) fun _ h => .pure (h.expr p _))
termination_by structural x => x

theorem NodeKind.read_within (start : Place) :
    ∀ k : NodeKind, Gives (k.read s start) fun k' => Within (k.outline start) k.leftOut (k'.outline sc)
  | .name _ => .pure .done
  | .literal _ => .pure .done
  | .paren x => .bind x.read_within fun _ h => .pure h
  | .select x m => .bind (x.read_qualifier sc (m.ident s) x.read_within) fun _ h => .pure h
  | .index x i => .bind x.read_within fun _ h => .bind i.read_within fun _ h' => .pure (h.swap h')
  | .slice x low high =>
    .bind x.read_within fun _ h => .bind (readOption_within low) fun _ hlow =>
      .bind (readOption_within high) fun _ hhigh => .pure (h.swap₂ hlow hhigh)
  | .slice3 x low high max =>
    .bind x.read_within fun _ h => .bind (readOption_within low) fun _ hlow =>
      .bind high.read_within fun _ hhigh => .bind max.read_within fun _ hmax => .pure (h.swap₃ hlow hhigh hmax)
  | .assert x t => .bind x.read_within fun _ h => .bind t.read_within fun _ h' => .pure (h.swap h')
  | .call f as => .bind (readArgs_within as) fun _ has => .bind f.read_within fun _ h => .pure (has.append h)
  | .convert t x => .bind t.read_within fun _ h => .bind x.read_within fun _ h' => .pure (h.swap h'.alone)
  | .star x => .bind x.read_within fun _ h => .pure h
  | .unary _ x => .bind x.read_within fun _ h => .pure h
  | .binary x _ y => .bind x.read_within fun _ h => .bind y.read_within fun _ h' => .pure (h.append h')
  | .composite t es => .bind t.read_within fun _ h => .bind (readAll_within es) fun _ hes => .pure (h.append hes)
  | .braces es => .bind (readAll_within es) fun _ hes => .pure hes
  | .keyed k v => .bind k.read_within fun _ h => .bind v.read_within fun _ h' => .pure (h.append h')
  | .func t b => .bind t.read_within fun _ h => .bind b.read_within fun _ h' => .pure (h.append h')
  | .array n t =>
    .bind (n.read_length sc n.read_within) fun _ h => .bind t.read_within fun _ h' =>
      .pure ((h.2 ▸ h.1).append h')
  | .openArray t => .bind t.read_within fun _ h => .pure h
  | .sliceOf t => .bind t.read_within fun _ h => .pure h
  | .struct ms => .bind (readMembers_within ms) fun _ h => .pure h
  | .interface es => .bind (readElements_within es) fun _ h => .pure h
  | .map k v => .bind k.read_within fun _ h => .bind v.read_within fun _ h' => .pure (h.append h')
  | .chan _ v => .bind v.read_within fun _ h => .pure h
  | .funcType t => .bind t.read_within fun _ h => .pure h
  | .generic form bracket => .refuse s _ (form.place start bracket)
termination_by structural k => k

theorem readOption_within : ∀ x : Option Node,
    Gives (readOption s x) fun e => Within (Node.outlineOption x) (Node.leftOutOption x) (Expr.outlineOption sc e)
  | none => .pure .done
  | some x => .bind x.read_within fun _ h => .pure h
termination_by structural x => x

theorem readAll_within : ∀ xs : List Node,
    Gives (readAll s xs) fun es => Within (Node.outlineList xs) (Node.leftOutList xs) (Expr.outlineList sc es)
  | [] => .pure .done
  | x :: xs => .bind x.read_within fun _ h => .bind (readAll_within xs) fun _ hs => .pure (h.append hs)
termination_by structural xs => xs

/-- Of the variables behind the first, the tree keeps one. -/
theorem readMore_within : ∀ xs : List Node,
    Gives (readAll s xs) fun es =>
      Within (Node.outlineList xs) (Node.leftOutMore xs) (Expr.outlineOption sc es.head?)
  | [] => .pure .done
  | x :: _ => .bind x.read_within fun _ h => .bind (.any _) fun _ _ => .pure (h.behind _)
termination_by structural xs => xs

theorem readArgs_within : ∀ as : List Arg,
    Gives (readArgs s as) fun es => Within (Arg.outlineList as) (Arg.leftOutList as) (Expr.outlineList sc es)
  | [] => .pure .done
  | .plain x :: as => .bind x.read_within fun _ h => .bind (readArgs_within as) fun _ hs => .pure (h.append hs)
  | .spread x :: as => .bind x.read_within fun _ h => .bind (readArgs_within as) fun _ hs => .pure (h.append hs)
termination_by structural as => as

theorem Signature.read_within : ∀ t : Signature,
    Gives (t.read s) fun t' => Within t.outline t.leftOut (t'.outline sc)
  | .mk ps none => .bind (readParams_within ps) fun _ h => .pure h
  | .mk ps (some rs) =>
    .bind (readParams_within ps) fun _ h => .bind (readParams_within rs) fun _ h' => .pure (h.append h')
termination_by structural t => t

theorem readParams_within : ∀ ps : List Param,
    Gives (readParams s ps) fun fs => Within (Param.outlineList ps) (Param.leftOutList ps) (Field.outlineList sc fs)
  | [] => .pure .done
  | .mk _ none t :: ps => .bind t.read_within fun _ h => .bind (readParams_within ps) fun _ hs => .pure (h.append hs)
  | .mk _ (some _) t :: ps =>
    .bind t.read_within fun _ h => .bind (readParams_within ps) fun _ hs => .pure ((h.inExpr _).append hs)
termination_by structural ps => ps

theorem readMembers_within : ∀ ms : List Member,
    Gives (readMembers s ms) fun fs =>
      Within (Member.outlineList ms) (Member.leftOutList ms) (Field.outlineList sc fs)
  | [] => .pure .done
  | .named _ _ t _ :: ms =>
    .bind t.read_within fun _ h => .bind (readMembers_within ms) fun _ hs => .pure (h.append hs)
  | .embedded none t _ :: ms =>
    .bind t.read_within fun _ h => .bind (readMembers_within ms) fun _ hs => .pure (h.append hs)
  | .embedded (some _) t _ :: ms =>
    .bind t.read_within fun _ h => .bind (readMembers_within ms) fun _ hs => .pure ((h.inExpr _).append hs)
termination_by structural ms => ms

theorem readElements_within : ∀ es : List Element,
    Gives (readElements s es) fun fs =>
      Within (Element.outlineList es) (Element.leftOutList es) (Field.outlineElements sc fs)
  | [] => .pure .done
  | .method _ t :: es =>
    .bind t.read_within fun _ h => .bind (readElements_within es) fun _ hs => .pure (h.append hs)
  | .embedded t :: es =>
    .bind t.read_within fun _ h => .bind (readElements_within es) fun _ hs => .pure (h.append hs)
  | .union start :: _ => .refuse s _ start
termination_by structural es => es

theorem Block.read_within : ∀ b : Block, Gives (b.read s) fun b' => Within b.outline b.leftOut (b'.outline sc)
  | .mk ss _ => .bind (readStmts_within ss) fun _ h => .pure h
termination_by structural b => b

theorem Stmt.read_within : ∀ x : Stmt, Gives (x.read s) fun x' => Within x.outline x.leftOut (x'.outline sc)
  | .mk k p => .visit s p (.bind (k.read_within p) fun _ h => .pure (h.stmt p _))
termination_by structural x => x

theorem readStmts_within : ∀ ss : List Stmt,
    Gives (readStmts s ss) fun ss' =>
      Within (Stmt.outlineList ss) (Stmt.leftOutList ss) (GoRebuild.Stmt.outlineList sc ss')
  | [] => .pure .done
  | x :: xs => .bind x.read_within fun _ h => .bind (readStmts_within xs) fun _ hs => .pure (h.append hs)
termination_by structural ss => ss

theorem readStmt?_within : ∀ x : Option Stmt,
    Gives (readStmt? s x) fun x' =>
      Within (Stmt.outlineOption x) (Stmt.leftOutOption x) (GoRebuild.Stmt.outlineOption sc x')
  | none => .pure .done
  | some x => .bind x.read_within fun _ h => .pure h
termination_by structural x => x

theorem StmtKind.read_within (start : Place) :
    ∀ k : StmtKind, Gives (k.read s start) fun k' => Within k.outline k.leftOut (k'.outline sc)
  | .decl d => .bind (d.read_within start) fun d' h => .pure (h.of_le (Nat.le_of_succ_le (d'.height_outline sc)))
  | .expr x => .bind x.read_within fun _ h => .pure h
  | .send x y => .bind x.read_within fun _ h => .bind y.read_within fun _ h' => .pure (h.append h')
  | .step x _ => .bind x.read_within fun _ h => .pure h
  | .assign l _ r => .bind (readAll_within l) fun _ h => .bind (readAll_within r) fun _ h' => .pure (h.append h')
  | .receive l _ y =>
    .bind y.read_within fun _ h => .bind (readAll_within l) fun _ h' => .pure (h.alone.swap h')
  | .returnStmt rs => .bind (readAll_within rs) fun _ h => .pure h
  | .goStmt x => .bind x.read_within fun _ h => .pure h
  | .deferStmt x => .bind x.read_within fun _ h => .pure h
  | .labeled _ none => .pure .done
  | .labeled _ (some x) => .bind x.read_within fun _ h => .pure h
  | .branch _ => .pure .done
  | .block (.mk ss _) => .bind (readStmts_within ss) fun _ h => .pure h
  | .empty => .pure .done
  | .conditional c => c.read_within
  | .loop h b => .bind b.read_within fun _ hb => h.read_within hb
  | .switch i t cs =>
    .bind (readClauses_within cs) fun _ hcs => .bind (readStmt?_within i) fun _ hi =>
      .bind (readOption_within t) fun _ ht => .pure (hcs.swap₂ hi ht)
  | .typeSwitch i [] x cs =>
    .bind x.read_within fun _ hx => .bind (.any _) fun _ _ => .bind (readClauses_within cs) fun _ hcs =>
      .bind (readStmt?_within i) fun _ hi => .pure (((((hx.behind Outline.done).inExpr _).inStmt _).append hcs).swap hi).assoc₃
  | .typeSwitch i (n :: ns) x cs =>
    .bind x.read_within fun _ hx => .bind (readAll_within (n :: ns)) fun _ hns =>
      .bind (readClauses_within cs) fun _ hcs => .bind (readStmt?_within i) fun _ hi =>
        .pure (((((hx.inExpr _).alone.swap hns).inStmt _).append hcs).swap hi).assoc₃
  | .select cs => .bind (readCommClauses_within cs) fun _ h => .pure h
termination_by structural k => k

theorem Conditional.read_within : ∀ c : Conditional,
    Gives (c.read s) fun k => Within c.outline c.leftOut (k.outline sc)
  | .mk i c b e _ =>
    .bind (readElse_within e) fun _ he => .bind (readStmt?_within i) fun _ hi => .bind c.read_within fun _ hc =>
      .bind b.read_within fun _ hb => .pure (he.swap₃ hi hc hb)
termination_by structural c => c

theorem readElse_within : ∀ e : Option Else,
    Gives (readElse s e) fun e' =>
      Within (Else.outlineOption e) (Else.leftOutOption e) (GoRebuild.Stmt.outlineOption sc e')
  | none => .pure .done
  | some (.block (.mk ss p)) => .visit s p (.bind (readStmts_within ss) fun _ h => .pure (h.stmt p _))
  | some (.chain c) => .visit s c.start (.bind c.read_within fun _ h => .pure (h.stmt c.start _))
termination_by structural e => e

theorem LoopHeader.read_within {body : GoRebuild.Block} {o : Outline Place} {n : Nat}
    (hb : Within o n (body.outline sc)) : ∀ h : LoopHeader,
      Gives (h.read s body) fun k => Within (o ++ h.outline) (max n h.leftOut) (k.outline sc)
  | .forever => .pure (hb.swap .done)
  | .while c => .bind c.read_within fun _ h => .pure (hb.swap h)
  | .steps i c p =>
    .bind (readStmt?_within i) fun _ hi => .bind (readOption_within c) fun _ hc =>
      .bind (readStmt?_within p) fun _ hp => .pure (hb.swap₃ hi hc hp)
  | .over x => .bind x.read_within fun _ h => .pure (hb.swap h)
  | .assigning k more _ x =>
    .bind k.read_within fun _ hk => .bind (readMore_within more) fun _ hmore => .bind x.read_within fun _ hx =>
      .pure (hb.range hk hmore hx)
termination_by structural h => h

theorem readClauses_within : ∀ cs : List Clause,
    Gives (readClauses s cs) fun xs =>
      Within (Clause.outlineList cs) (Clause.leftOutList cs) (GoRebuild.Stmt.outlineList sc xs)
  | [] => .pure .done
  | .case x xs b _ :: cs =>
    .bind x.read_within fun _ h => .bind (readAll_within xs) fun _ hs => .bind (readStmts_within b) fun _ hb =>
      .bind (readClauses_within cs) fun _ hcs => .pure ((((h.append hs).append hb).inStmt _).append hcs).assoc₃
  | .otherwise b _ :: cs =>
    .bind (readStmts_within b) fun _ hb => .bind (readClauses_within cs) fun _ hcs =>
      .pure ((hb.inStmt _).append hcs)
termination_by structural cs => cs

theorem readCommClauses_within : ∀ cs : List CommClause,
    Gives (readCommClauses s cs) fun xs =>
      Within (CommClause.outlineList cs) (CommClause.leftOutList cs) (GoRebuild.Stmt.outlineList sc xs)
  | [] => .pure .done
  | .mk c b _ :: cs =>
    .bind (readStmt?_within c) fun _ hc => .bind (readStmts_within b) fun _ hb =>
      .bind (readCommClauses_within cs) fun _ hcs => .pure (((hc.append hb).inStmt _).append hcs).assoc₂
termination_by structural cs => cs

/-- The declaration itself is a level of synthesis only. -/
theorem Decl.read_within (start : Place) : ∀ d : Decl,
    Gives (d.read s start) fun d' => Within d.outline d.leftOut (Spec.outlineList sc d'.pos d'.specs)
  | .value _ x _ => .bind x.read_within fun _ h => .pure (h _).alone
  | .values _ xs _ => .bind (readValueSpecs_within xs) fun _ h => .pure (h _)
  | .type x _ => .bind x.read_within fun _ h => .pure (h _).alone
  | .types xs _ => .bind (readTypeSpecs_within xs) fun _ h => .pure (h _)
termination_by structural d => d

theorem ValueSpec.read_within : ∀ x : ValueSpec,
    Gives (x.read s) fun x' => ∀ pos, Within x.outline x.leftOut (x'.outline sc pos)
  | .mk _ _ t vs =>
    .bind (readOption_within t) fun _ ht => .bind (readAll_within vs) fun _ hvs => .pure fun _ => ht.append hvs
termination_by structural x => x

theorem readValueSpecs_within : ∀ xs : List ValueSpec,
    Gives (readValueSpecs s xs) fun xs' =>
      ∀ pos, Within (ValueSpec.outlineList xs) (ValueSpec.leftOutList xs) (Spec.outlineList sc pos xs')
  | [] => .pure fun _ => .done
  | x :: xs =>
    .bind x.read_within fun _ h => .bind (readValueSpecs_within xs) fun _ hs => .pure fun pos => (h pos).append (hs pos)
termination_by structural xs => xs

theorem TypeSpec.read_within : ∀ x : TypeSpec,
    Gives (x.read s) fun x' => ∀ pos, Within x.outline x.leftOut (x'.outline sc pos)
  | .mk _ (some params) _ _ => .refuse s _ params
  | .mk _ none _ t => .bind t.read_within fun _ h => .pure fun _ => h
termination_by structural x => x

theorem readTypeSpecs_within : ∀ xs : List TypeSpec,
    Gives (readTypeSpecs s xs) fun xs' =>
      ∀ pos, Within (TypeSpec.outlineList xs) (TypeSpec.leftOutList xs) (Spec.outlineList sc pos xs')
  | [] => .pure fun _ => .done
  | x :: xs =>
    .bind x.read_within fun _ h => .bind (readTypeSpecs_within xs) fun _ hs => .pure fun pos => (h pos).append (hs pos)
termination_by structural xs => xs

end

/-! ## Entries at top level -/

theorem Decl.read_tok (start : Place) (d : Decl) : Gives (d.read s start) fun d' => d'.tok ≠ .importTok := by
  cases d with
  | value tok x p => exact .bind (.any _) fun _ _ => .pure (by cases tok <;> nofun)
  | values tok xs p => exact .bind (.any _) fun _ _ => .pure (by cases tok <;> nofun)
  | type x p => exact .bind (.any _) fun _ _ => .pure nofun
  | types xs p => exact .bind (.any _) fun _ _ => .pure nofun

/-- At top level nothing but what is left out is in the way of reading. -/
theorem Decl.read_height (start : Place) (d : Decl) :
    Gives (d.read s start) fun d' => d.leftOut ≤ d.outline.height ∧
      d.outline.height ≤ max ((GoRebuild.Decl.gen d').outline sc).height d.leftOut := by
  intro depth d' hd'
  have hwithin := d.read_within sc s start depth d' hd'
  have htok := d.read_tok s start depth d' hd'
  have hnode := d'.height_outline sc
  have hoverall : (GoRebuild.Decl.gen d').outline sc = d'.outline sc := by
    obtain ⟨tok, pos, grouped, specs⟩ := d'
    cases tok with
    | importTok => exact absurd rfl htok
    | _ => rfl
  have hle := hwithin.height_le
  rw [hoverall]
  exact ⟨hwithin.leftOut_le, by omega⟩

theorem Func.read_height (f : Func) :
    Gives (f.read s) fun d => f.leftOut ≤ f.outline.height ∧
      f.outline.height ≤ max (d.outline sc).height f.leftOut := by
  obtain ⟨recv, n, params, sig, body, start⟩ := f
  unfold Func.read
  cases params with
  | some p => exact .bind (Q := fun _ => False) (.refuse s _ p) fun _ h => h.elim
  | none =>
    have hrecv : Gives (recv.mapM (readParams s)) fun fs =>
        Within (Param.outlineReceiver recv) (Param.leftOutReceiver recv) (Field.outlineReceiver sc fs) := by
      cases recv with
      | none => exact .pure .done
      | some ps => exact .bind (readParams_within sc s ps) fun _ h => .pure h
    have hbody : Gives (body.mapM (Block.read s)) fun b =>
        Within (Block.outlineOption body) (Block.leftOutOption body) (GoRebuild.Block.outlineOption sc b) := by
      cases body with
      | none => exact .pure .done
      | some b => exact .bind (b.read_within sc s) fun _ h => .pure h
    refine .bind hrecv fun _ hrecv => .bind hbody fun _ hbody => .bind (sig.read_within sc s) fun _ hsig => .pure ?_
    have hwithin := hrecv.append (hbody.swap hsig)
    exact ⟨hwithin.leftOut_le, hwithin.height_le_node _⟩

theorem le_max_of_le {k l m n : Nat} (h : k ≤ max l m) (hl : l ≤ n) : k ≤ max n m := by
  omega

theorem Item.read_height (i : Item) :
    Gives (i.read s) fun t => i.leftOut ≤ i.outline.height ∧
      ∀ n, (∀ d ∈ t.decl?, (d.outline sc).height ≤ n) → i.outline.height ≤ max n i.leftOut := by
  cases i with
  | package n => exact .pure ⟨Nat.le_refl 0, fun _ _ => Nat.zero_le _⟩
  | importOne i start => exact .pure ⟨Nat.le_refl 0, fun _ _ => Nat.zero_le _⟩
  | imports is start => exact .pure ⟨Nat.le_refl 0, fun _ _ => Nat.zero_le _⟩
  | func f =>
    exact .bind (f.read_height sc s) fun d h => .pure ⟨h.1, fun n hn => le_max_of_le h.2 (hn _ rfl)⟩
  | stmt x =>
    obtain ⟨k, p⟩ := x
    cases k with
    | decl d =>
      exact .bind (d.read_height sc s p) fun d' h => .pure ⟨h.1, fun n hn => le_max_of_le h.2 (hn _ rfl)⟩
    | _ => exact .refuse s _ _

end Grammar

/-! ## Sources -/

open Grammar Lexical Reading

/-- How many levels down the deepest node of a source is that reading visits and leaves out of the tree; 0 if there is
none. Such are the variables of `range` clauses behind the second, and nothing else. -/
def leftOutAll : List Item → Nat
  | [] => 0
  | i :: is => max i.leftOut (leftOutAll is)

theorem readAllItems_height (s : Setting) (items : List Item) :
    Gives (items.mapM fun i : Item => i.read s) fun parts => leftOutAll items ≤ (outlineAll items).height ∧
      ∀ n, (∀ d ∈ parts.filterMap TopLevel.decl?, (d.outline sc).height ≤ n) →
        (outlineAll items).height ≤ max n (leftOutAll items) := by
  induction items with
  | nil => exact .pure ⟨Nat.le_refl 0, fun _ _ => Nat.zero_le _⟩
  | cons i is ih =>
    rw [List.mapM_cons]
    refine .bind (i.read_height sc s) fun t ht => .bind ih fun ts hts => .pure ?_
    rw [outlineAll, leftOutAll, height_append]
    refine ⟨by omega, fun n hn => ?_⟩
    have hhead := ht.2 n fun d hd => hn d (List.mem_filterMap.mpr ⟨t, List.mem_cons_self, hd⟩)
    have htail := hts.2 n fun d hd => by
      obtain ⟨t', ht', hd'⟩ := List.mem_filterMap.mp hd
      exact hn d (List.mem_filterMap.mpr ⟨t', List.mem_cons_of_mem t ht', hd'⟩)
    omega

/-- No declaration of a file that is assembled is nested deeper than the limit. -/
theorem height_of_assemble {f : File} {o : Options} {p : Program} (h : assemble f o = .ok p) :
    ∃ sc : Scope, ∀ d ∈ f.decls, (d.outline sc).height ≤ o.limit := by
  rw [assemble_eq_assembleBy, assembleBy_eq_ok_iff] at h
  obtain ⟨-, table, gs, -, hgs, -⟩ := h
  refine ⟨⟨table, o.limit⟩, fun d hd => ?_⟩
  obtain ⟨i, hi, rfl⟩ := List.getElem_of_mem hd
  obtain ⟨hlength, hanswers⟩ := List.forall₂_iff_get.mp (synthApart_eq_ok_iff.mp hgs)
  exact ((Decl.follows_synth _ _).answers_iff.mp ⟨_, hanswers i hi (hlength ▸ hi)⟩).2

section
variable {parser : SourceParser} {source : String} {items : List Item} {pos : Place → Pos}

/-- What is left out of a file that is read is nested no deeper than the limit. -/
theorem leftOut_le_of_read (hderives : parser.Derives source items pos) {l : Nat} {f : File}
    (h : File.read parser l source = .ok f) : leftOutAll items ≤ l := by
  obtain ⟨parts, hparts, -⟩ := File.parts_of_read hderives h
  have hheight := ((follows_readAll _ items).answers_iff.mp ⟨parts, hparts⟩).2
  have hle := (readAllItems_height ⟨⟨[], [], []⟩, l⟩ _ items 0 parts hparts).1
  exact Nat.le_trans hle hheight

/-- A file that is assembled is not nested too deep for reading, unless what is left out is. -/
theorem height_le_of_assemble (hderives : parser.Derives source items pos) {l : Nat} {f : File} {o : Options}
    {p : Program} (hread : File.read parser l source = .ok f) (hassemble : assemble f o = .ok p)
    (hleftOut : leftOutAll items ≤ o.limit) : (outlineAll items).height ≤ o.limit := by
  obtain ⟨sc, hheight⟩ := height_of_assemble hassemble
  obtain ⟨parts, hparts, hfile⟩ := File.parts_of_read hderives hread
  rw [decls_of_ofParts hfile] at hheight
  have hle := (readAllItems_height sc _ items 0 parts hparts).2 o.limit hheight
  omega

/-- A file that is assembled is read at the same limit, unless what is left out is nested deeper. -/
theorem File.read_iff_of_assemble (hderives : parser.Derives source items pos) {l : Nat} {f : File} {o : Options}
    {p : Program} (hread : File.read parser l source = .ok f) (hassemble : assemble f o = .ok p) : File.read parser o.limit source = .ok f ↔ leftOutAll items ≤ o.limit := by
  refine ⟨leftOut_le_of_read hderives, fun hleftOut => ?_⟩
  have hheight := height_le_of_assemble hderives hread hassemble hleftOut
  rcases Nat.le_total l o.limit with hl | hl
  · rcases File.read_of_le parser source hl with ⟨e, he, -⟩ | heq
    · rw [hread] at he
      cases he
    · rw [heq, hread]
  · rcases File.read_of_le parser source hl with ⟨e, he, hdeep⟩ | heq
    · -- the only failure that a higher limit mends is nesting beyond this one
      rcases File.failure_of_read hderives he with ⟨_, _, rfl, -⟩ | ⟨_, -, hlt⟩ | ⟨rfl, -⟩
      · exact hdeep.elim
      · omega
      · exact hdeep.elim
    · rw [← heq, hread]

variable (hparser : parser.FollowsGrammar)
include hparser

/-- A source gives a program exactly if its file is assembled at the limit and what is left out is nested no deeper. -/
theorem generate_ok_iff (o : Options) (layout : Layout) (source : String) :
    (∃ text, generate parser o layout source = .ok text) ↔
      (∃ items pos, parser.Derives source items pos ∧ leftOutAll items ≤ o.limit) ∧
        ∃ l f p, File.read parser l source = .ok f ∧ assemble f o = .ok p := by
  constructor
  · rintro ⟨text, h⟩
    unfold generate at h
    cases hread : File.read parser o.limit source with
    | error e =>
      rw [hread] at h
      cases h
    | ok f =>
      rw [hread] at h
      change ((assemble f o).mapError Failure.synth >>= _) = _ at h
      cases hassemble : assemble f o with
      | error e =>
        rw [hassemble] at h
        cases h
      | ok p =>
        obtain ⟨items, pos, hderives⟩ := File.exists_derivation hparser hread
        exact ⟨⟨items, pos, hderives, leftOut_le_of_read hderives hread⟩, o.limit, f, p, hread, hassemble⟩
  · rintro ⟨⟨items, pos, hderives, hleftOut⟩, l, f, p, hread, hassemble⟩
    obtain ⟨table, -, happart⟩ := namedApart_of_assemble hassemble
    have hrender := Program.render_eq_text happart.nodup happart.not_file layout
    refine ⟨p.text layout, ?_⟩
    rw [generate, (File.read_iff_of_assemble hderives hread hassemble).mpr hleftOut]
    change ((assemble f o).mapError Failure.synth >>= _) = _
    rw [hassemble]
    change (p.render layout).mapError Failure.render = _
    rw [hrender]
    rfl

/-- **Reading is no stricter than synthesis, but for what it leaves out.** If the file of a source, read at some limit,
is assembled at another, then it is read at that as well, unless a variable of a `range` clause behind the second is
nested deeper. So a program is generated exactly if the source can be read, its file is assembled, and nothing that is
left out is nested deeper than the limit. -/
theorem reading_no_stricter (source : String) :
    (∀ l f (o : Options) p, File.read parser l source = .ok f → assemble f o = .ok p →
      (∃ items pos, parser.Derives source items pos) ∧ ∀ items pos, parser.Derives source items pos →
        (File.read parser o.limit source = .ok f ↔ leftOutAll items ≤ o.limit)) ∧
    ∀ (o : Options) (layout : Layout), (∃ text, generate parser o layout source = .ok text) ↔
      (∃ items pos, parser.Derives source items pos ∧ leftOutAll items ≤ o.limit) ∧
        ∃ l f p, File.read parser l source = .ok f ∧ assemble f o = .ok p :=
  ⟨fun _ _ _ _ hread hassemble => ⟨File.exists_derivation hparser hread, fun _ _ hderives =>
    File.read_iff_of_assemble hderives hread hassemble⟩, fun o layout => generate_ok_iff hparser o layout source⟩

end

/-- The third variable is nested deeper than all that the tree has: the file is assembled at a limit at which the source
is not read. -/
theorem reading_no_stricter_three_variables :
    let source := "package p\n\nfunc f() \x7b\n\tfor a, b, c[d[0]] = range x \x7b\n\t\x7d\n\x7d\n"
    ∃ f p, File.read Grammar.parser 4 source = .ok f ∧ assemble f { limit := 3 } = .ok p ∧
      ¬File.read Grammar.parser 3 source = .ok f ∧
      ¬∃ text, generate Grammar.parser { limit := 3 } .pretty source = .ok text := by
  intro source
  generalize hsource : source = src
  have hleftOut : ((scan src).bind fun tokens => (items? (tokens.map (·.1))).map leftOutAll) = some 4 := by
    rw [← hsource]
    decide +kernel
  obtain ⟨tokens, hscan, hleftOut⟩ := Option.bind_eq_some_iff.mp hleftOut
  obtain ⟨items, hitems, hleftOut⟩ := Option.map_eq_some_iff.mp hleftOut
  have hderives := derives_of_items hscan hitems
  have hassembled : ((File.read Grammar.parser 4 src).toOption.bind fun f =>
      (assemble f { limit := 3 }).toOption).isSome := by
    rw [← hsource]
    decide +kernel
  cases hread : File.read Grammar.parser 4 src with
  | error e =>
    rw [hread] at hassembled
    cases hassembled
  | ok f =>
    cases hassemble : assemble f { limit := 3 } with
    | error e =>
      rw [hread] at hassembled
      change (assemble f { limit := 3 }).toOption.isSome at hassembled
      rw [hassemble] at hassembled
      cases hassembled
    | ok p =>
      have hreading := (reading_no_stricter parser_followsGrammar src).1 4 f { limit := 3 } p hread hassemble
      have hnot : ¬File.read Grammar.parser 3 src = .ok f := fun h => by
        have hle := (hreading.2 items _ hderives).mp h
        rw [hleftOut] at hle
        exact absurd hle (by decide)
      refine ⟨f, p, rfl, hassemble, hnot, ?_⟩
      rintro ⟨text, h⟩
      -- whatever derives the source, the file is read then
      obtain ⟨items', pos', hderives', hle⟩ :=
        (((reading_no_stricter parser_followsGrammar src).2 { limit := 3 } .pretty).mp ⟨text, h⟩).1
      exact hnot ((hreading.2 items' pos' hderives').mpr hle)

end GoRebuild
