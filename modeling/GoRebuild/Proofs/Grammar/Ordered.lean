import GoRebuild.Grammar.Basic
import GoRebuild.Proofs.Tree.Ordered

/-!
# Derivations whose places are in order

`Node.Ordered`, `Stmt.Ordered`, `Decl.Ordered`, `Item.Ordered` and the rest: where nodes start and where names are is at
real positions, no node starts before the node that it is part of, and in lists each starts behind the start of the one
before it.

The number in each statement is the offset before which nothing may start. Nothing is said of the place at which a
generic construct is refused, nor of places that are not read.
-/

namespace GoRebuild.Grammar
open Lexical (Place)

def Member.start : Member → Place
  | .named n _ _ _ => n.place
  | .embedded (some star) _ _ => star
  | .embedded none t _ => t.start

def Element.start : Element → Place
  | .method n _ => n.place
  | .embedded t => t.start
  | .union start => start

def Clause.start : Clause → Place
  | .case _ _ _ start | .otherwise _ start => start

def CommClause.start : CommClause → Place
  | .mk _ _ start => start

def ValueSpec.start : ValueSpec → Place
  | .mk n _ _ _ => n.place

def TypeSpec.start : TypeSpec → Place
  | .mk n _ _ _ => n.place

section
variable (real : Pos → Prop) (pos : Place → Pos)

/-- Names in order. -/
def Name.AllOrdered : Nat → List Name → Prop
  | _, [] => True
  | lo, n :: ns => (pos n.place).Ordered real lo ∧ Name.AllOrdered ((pos n.place).offset.toNat + 1) ns

mutual

def Node.Ordered (lo : Nat) : Node → Prop
  | .mk k p => (pos p).Ordered real lo ∧ k.Ordered (pos p).offset.toNat

def NodeKind.Ordered (lo : Nat) : NodeKind → Prop
  | .name _ | .literal _ | .generic _ _ => True
  | .paren x | .star x | .unary _ x | .openArray x | .sliceOf x | .chan _ x => x.Ordered lo
  | .select x m => x.Ordered lo ∧ (pos m.place).Ordered real lo
  | .index x y | .binary x _ y | .keyed x y | .array x y | .map x y | .assert x y | .convert x y =>
    x.Ordered lo ∧ y.Ordered lo
  | .slice x low high => x.Ordered lo ∧ Node.OptionOrdered lo low ∧ Node.OptionOrdered lo high
  | .slice3 x low high max => x.Ordered lo ∧ Node.OptionOrdered lo low ∧ high.Ordered lo ∧ max.Ordered lo
  | .call f as => f.Ordered lo ∧ Arg.AllOrdered lo as
  | .composite t es => t.Ordered lo ∧ Node.AllOrdered lo es
  | .braces es => Node.AllOrdered lo es
  | .func t b => t.Ordered lo ∧ b.Ordered lo
  | .struct ms => Member.AllOrdered lo ms
  | .interface es => Element.AllOrdered lo es
  | .funcType t => t.Ordered lo

def Node.OptionOrdered (lo : Nat) : Option Node → Prop
  | none => True
  | some x => x.Ordered lo

def Node.AllOrdered (lo : Nat) : List Node → Prop
  | [] => True
  | x :: xs => x.Ordered lo ∧ Node.AllOrdered ((pos x.start).offset.toNat + 1) xs

def Arg.Ordered (lo : Nat) : Arg → Prop
  | .plain x | .spread x => x.Ordered lo

def Arg.AllOrdered (lo : Nat) : List Arg → Prop
  | [] => True
  | a :: as => a.Ordered lo ∧ Arg.AllOrdered ((pos a.start).offset.toNat + 1) as

def Signature.Ordered (lo : Nat) : Signature → Prop
  | .mk ps none => Param.AllOrdered lo ps
  | .mk ps (some rs) => Param.AllOrdered lo ps ∧ Param.AllOrdered lo rs

def Param.Ordered (lo : Nat) : Param → Prop
  | .mk (n :: ns) _ t => Name.AllOrdered real pos lo (n :: ns) ∧ t.Ordered (pos n.place).offset.toNat
  | .mk [] (some dots) t => (pos dots).Ordered real lo ∧ t.Ordered (pos dots).offset.toNat
  | .mk [] none t => t.Ordered lo

def Param.AllOrdered (lo : Nat) : List Param → Prop
  | [] => True
  | p :: ps => p.Ordered lo ∧ Param.AllOrdered ((pos p.start).offset.toNat + 1) ps

def Member.Ordered (lo : Nat) : Member → Prop
  | .named n ns t _ => Name.AllOrdered real pos lo (n :: ns) ∧ t.Ordered (pos n.place).offset.toNat
  | .embedded (some star) t _ => (pos star).Ordered real lo ∧ t.Ordered (pos star).offset.toNat
  | .embedded none t _ => t.Ordered lo

def Member.AllOrdered (lo : Nat) : List Member → Prop
  | [] => True
  | m :: ms => m.Ordered lo ∧ Member.AllOrdered ((pos m.start).offset.toNat + 1) ms

def Element.Ordered (lo : Nat) : Element → Prop
  | .method n t => (pos n.place).Ordered real lo ∧ t.Ordered (pos n.place).offset.toNat
  | .embedded t => t.Ordered lo
  | .union start => (pos start).Ordered real lo

def Element.AllOrdered (lo : Nat) : List Element → Prop
  | [] => True
  | e :: es => e.Ordered lo ∧ Element.AllOrdered ((pos e.start).offset.toNat + 1) es

def Block.Ordered (lo : Nat) : Block → Prop
  | .mk ss p => (pos p).Ordered real lo ∧ Stmt.AllOrdered (pos p).offset.toNat ss

def Stmt.Ordered (lo : Nat) : Stmt → Prop
  | .mk k p => (pos p).Ordered real lo ∧ k.Ordered (pos p).offset.toNat

def Stmt.AllOrdered (lo : Nat) : List Stmt → Prop
  | [] => True
  | x :: xs => x.Ordered lo ∧ Stmt.AllOrdered ((pos x.start).offset.toNat + 1) xs

def Stmt.OptionOrdered (lo : Nat) : Option Stmt → Prop
  | none => True
  | some x => x.Ordered lo

/-- The kind of a statement. What a type switch is over starts no earlier than the first name for it. -/
def StmtKind.Ordered (lo : Nat) : StmtKind → Prop
  | .empty => True
  | .branch jump => ∀ n ∈ jump.label, (pos n.place).Ordered real lo
  | .decl d => d.Ordered lo
  | .expr x | .step x _ | .goStmt x | .deferStmt x => x.Ordered lo
  | .send x y => x.Ordered lo ∧ y.Ordered lo
  | .assign l _ r => Node.AllOrdered lo l ∧ Node.AllOrdered lo r
  | .receive l _ y => Node.AllOrdered lo l ∧ y.Ordered lo
  | .returnStmt rs => Node.AllOrdered lo rs
  | .labeled n x => (pos n.place).Ordered real lo ∧ Stmt.OptionOrdered lo x
  | .block (.mk ss _) => Stmt.AllOrdered lo ss
  | .conditional c => c.Ordered lo
  | .loop h b => h.Ordered lo ∧ b.Ordered lo
  | .switch i t cs => Stmt.OptionOrdered lo i ∧ Node.OptionOrdered lo t ∧ Clause.AllOrdered lo cs
  | .typeSwitch i [] x cs => Stmt.OptionOrdered lo i ∧ x.Ordered lo ∧ Clause.AllOrdered lo cs
  | .typeSwitch i (n :: ns) x cs =>
    Stmt.OptionOrdered lo i ∧ Node.AllOrdered lo (n :: ns) ∧ x.Ordered (pos n.start).offset.toNat ∧ Clause.AllOrdered lo cs
  | .select cs => CommClause.AllOrdered lo cs

def Conditional.Ordered (lo : Nat) : Conditional → Prop
  | .mk i c b e _ => Stmt.OptionOrdered lo i ∧ c.Ordered lo ∧ b.Ordered lo ∧ Else.OptionOrdered lo e

def Else.OptionOrdered (lo : Nat) : Option Else → Prop
  | none => True
  | some (.block b) => b.Ordered lo
  | some (.chain c) => (pos c.start).Ordered real lo ∧ c.Ordered (pos c.start).offset.toNat

def LoopHeader.Ordered (lo : Nat) : LoopHeader → Prop
  | .forever => True
  | .while c => c.Ordered lo
  | .steps i c p => Stmt.OptionOrdered lo i ∧ Node.OptionOrdered lo c ∧ Stmt.OptionOrdered lo p
  | .over x => x.Ordered lo
  | .assigning k ks _ x => k.Ordered lo ∧ Node.AllOrdered ((pos k.start).offset.toNat + 1) ks ∧ x.Ordered lo

def Clause.Ordered (lo : Nat) : Clause → Prop
  | .case x xs b p =>
    (pos p).Ordered real lo ∧ x.Ordered (pos p).offset.toNat ∧ Node.AllOrdered ((pos x.start).offset.toNat + 1) xs ∧
      Stmt.AllOrdered (pos p).offset.toNat b
  | .otherwise b p => (pos p).Ordered real lo ∧ Stmt.AllOrdered (pos p).offset.toNat b

def Clause.AllOrdered (lo : Nat) : List Clause → Prop
  | [] => True
  | c :: cs => c.Ordered lo ∧ Clause.AllOrdered ((pos c.start).offset.toNat + 1) cs

def CommClause.Ordered (lo : Nat) : CommClause → Prop
  | .mk c b p =>
    (pos p).Ordered real lo ∧ Stmt.OptionOrdered (pos p).offset.toNat c ∧ Stmt.AllOrdered (pos p).offset.toNat b

def CommClause.AllOrdered (lo : Nat) : List CommClause → Prop
  | [] => True
  | c :: cs => c.Ordered lo ∧ CommClause.AllOrdered ((pos c.start).offset.toNat + 1) cs

def Decl.Ordered (lo : Nat) : Decl → Prop
  | .value _ x _ => x.Ordered lo
  | .values _ xs _ => ValueSpec.AllOrdered lo xs
  | .type x _ => x.Ordered lo
  | .types xs _ => TypeSpec.AllOrdered lo xs

def ValueSpec.Ordered (lo : Nat) : ValueSpec → Prop
  | .mk n ns t vs => Name.AllOrdered real pos lo (n :: ns) ∧ Node.OptionOrdered lo t ∧ Node.AllOrdered lo vs

def ValueSpec.AllOrdered (lo : Nat) : List ValueSpec → Prop
  | [] => True
  | x :: xs => x.Ordered lo ∧ ValueSpec.AllOrdered ((pos x.start).offset.toNat + 1) xs

def TypeSpec.Ordered (lo : Nat) : TypeSpec → Prop
  | .mk n _ _ t => (pos n.place).Ordered real lo ∧ t.Ordered lo

def TypeSpec.AllOrdered (lo : Nat) : List TypeSpec → Prop
  | [] => True
  | x :: xs => x.Ordered lo ∧ TypeSpec.AllOrdered ((pos x.start).offset.toNat + 1) xs

end

def Import.AllOrdered : Nat → List Import → Prop
  | _, [] => True
  | lo, i :: is => (pos i.start).Ordered real lo ∧ Import.AllOrdered ((pos i.start).offset.toNat + 1) is

structure Func.Ordered (lo : Nat) (f : Func) : Prop where
  start : (pos f.start).Ordered real lo
  recv : ∀ ps ∈ f.recv, Param.AllOrdered real pos (pos f.start).offset.toNat ps
  name : (pos f.name.place).Ordered real (pos f.start).offset.toNat
  sig : f.sig.Ordered real pos (pos f.start).offset.toNat
  body : ∀ b ∈ f.body, b.Ordered real pos (pos f.start).offset.toNat

/-- Entries at top level in order. A package clause may be anywhere among them. -/
def Item.AllOrdered : Nat → List Item → Prop
  | _, [] => True
  | lo, .package n :: is => real (pos n.place) ∧ Item.AllOrdered lo is
  | lo, .importOne i p :: is =>
    (pos p).Ordered real lo ∧ (pos i.start).Ordered real (pos p).offset.toNat ∧
      Item.AllOrdered ((pos p).offset.toNat + 1) is
  | lo, .imports specs p :: is =>
    (pos p).Ordered real lo ∧ Import.AllOrdered real pos (pos p).offset.toNat specs ∧
      Item.AllOrdered ((pos p).offset.toNat + 1) is
  | lo, .func f :: is => f.Ordered real pos lo ∧ Item.AllOrdered ((pos f.start).offset.toNat + 1) is
  | lo, .stmt x :: is => x.Ordered real pos lo ∧ Item.AllOrdered ((pos x.start).offset.toNat + 1) is

end

variable {real : Pos → Prop} {pos : Place → Pos} {lo lo' : Nat}

theorem Node.Ordered.at {x : Node} (h : x.Ordered real pos lo) : (pos x.start).Ordered real lo := by
  cases x
  exact h.1

/-- What is in order is in order from its start on. -/
theorem Node.Ordered.self {x : Node} (h : x.Ordered real pos lo) : x.Ordered real pos (pos x.start).offset.toNat := by
  cases x
  exact ⟨⟨Nat.le_refl _, h.1.2⟩, h.2⟩

theorem Node.AllOrdered.mono {xs : List Node} (h : Node.AllOrdered real pos lo' xs) (hle : lo ≤ lo') :
    Node.AllOrdered real pos lo xs := by
  cases xs with
  | nil => trivial
  | cons x xs =>
    obtain ⟨k, p⟩ := x
    exact ⟨⟨⟨Nat.le_trans hle h.1.1.1, h.1.1.2⟩, h.1.2⟩, h.2⟩

end GoRebuild.Grammar
