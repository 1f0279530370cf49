import GoRebuild.Proofs.Grammar.Pieces
import GoRebuild.Proofs.Reader.Agree

/-!
# What a tree has room for

A tree holds at most two variables of a `range`, one mark for the spread argument of a call, which stands
behind the last one, and one package clause, which stands first.

* `Node.isFaithful`, `Stmt.isFaithful`, `Decl.isFaithful`, `Func.isFaithful`, `Item.isFaithful` : a construct
  keeps to that, with all that is in it;
* `faithful` : so do all items of a source;
* `Node.starts` : the first mark of an expression is not the dots.
-/

namespace GoRebuild.Grammar
open Piece

mutual

/-- Whether a tree has room for an expression or type. -/
def Node.isFaithful : Node → Bool
  | .mk k _ => k.isFaithful

def NodeKind.isFaithful : NodeKind → Bool
  | .name _ | .literal _ | .generic _ _ => true
  | .paren x | .select x _ | .star x | .unary _ x | .openArray x | .sliceOf x | .chan _ x => x.isFaithful
  | .index x y | .assert x y | .convert x y | .binary x _ y | .keyed x y | .array x y | .map x y =>
    x.isFaithful && y.isFaithful
  | .slice x low high => x.isFaithful && (Node.isFaithfulOption low && Node.isFaithfulOption high)
  | .slice3 x low high max =>
    x.isFaithful && (Node.isFaithfulOption low && (high.isFaithful && max.isFaithful))
  | .call f as => f.isFaithful && Arg.areFaithful as
  | .composite t es => t.isFaithful && Node.areFaithful es
  | .braces es => Node.areFaithful es
  | .func t b => t.isFaithful && b.isFaithful
  | .struct ms => Member.areFaithful ms
  | .interface es => Element.areFaithful es
  | .funcType t => t.isFaithful

def Node.isFaithfulOption : Option Node → Bool
  | none => true
  | some x => x.isFaithful

def Node.areFaithful : List Node → Bool
  | [] => true
  | x :: xs => x.isFaithful && Node.areFaithful xs

/-- Whether it has room for arguments: none but the last is spread. -/
def Arg.areFaithful : List Arg → Bool
  | [] => true
  | [.plain x] | [.spread x] => x.isFaithful
  | .plain x :: a :: as => x.isFaithful && Arg.areFaithful (a :: as)
  | .spread _ :: _ :: _ => false

def Signature.isFaithful : Signature → Bool
  | .mk ps none => Param.areFaithful ps
  | .mk ps (some rs) => Param.areFaithful ps && Param.areFaithful rs

def Param.areFaithful : List Param → Bool
  | [] => true
  | .mk _ _ t :: ps => t.isFaithful && Param.areFaithful ps

def Member.areFaithful : List Member → Bool
  | [] => true
  | .named _ _ t _ :: ms | .embedded _ t _ :: ms => t.isFaithful && Member.areFaithful ms

def Element.areFaithful : List Element → Bool
  | [] => true
  | .method _ t :: es => t.isFaithful && Element.areFaithful es
  | .embedded t :: es => t.isFaithful && Element.areFaithful es
  | .union _ :: es => Element.areFaithful es

def Block.isFaithful : Block → Bool
  | .mk ss _ => Stmt.areFaithful ss

def Stmt.isFaithful : Stmt → Bool
  | .mk k _ => k.isFaithful

def Stmt.areFaithful : List Stmt → Bool
  | [] => true
  | x :: xs => x.isFaithful && Stmt.areFaithful xs

def Stmt.isFaithfulOption : Option Stmt → Bool
  | none => true
  | some x => x.isFaithful

def StmtKind.isFaithful : StmtKind → Bool
  | .decl d => d.isFaithful
  | .expr x | .step x _ | .goStmt x | .deferStmt x => x.isFaithful
  | .send x y => x.isFaithful && y.isFaithful
  | .assign l _ r => Node.areFaithful l && Node.areFaithful r
  | .receive l _ y => Node.areFaithful l && y.isFaithful
  | .returnStmt rs => Node.areFaithful rs
  | .labeled _ x => Stmt.isFaithfulOption x
  | .branch _ | .empty => true
  | .block b => b.isFaithful
  | .conditional c => c.isFaithful
  | .loop h b => h.isFaithful && b.isFaithful
  | .switch i t cs => Stmt.isFaithfulOption i && Node.isFaithfulOption t && Clause.areFaithful cs
  | .typeSwitch i ns x cs =>
    Stmt.isFaithfulOption i && (Node.areFaithful ns && x.isFaithful) && Clause.areFaithful cs
  | .select cs => CommClause.areFaithful cs

def Conditional.isFaithful : Conditional → Bool
  | .mk i c b e _ => Stmt.isFaithfulOption i && c.isFaithful && b.isFaithful && Else.isFaithful e

def Else.isFaithful : Option Else → Bool
  | none => true
  | some (.block b) => b.isFaithful
  | some (.chain c) => c.isFaithful

/-- Whether it has room for the header of a loop: no `range` has more than two variables. -/
def LoopHeader.isFaithful : LoopHeader → Bool
  | .forever => true
  | .while c => c.isFaithful
  | .steps i c p => Stmt.isFaithfulOption i && (Node.isFaithfulOption c && Stmt.isFaithfulOption p)
  | .over x => x.isFaithful
  | .assigning k [] _ x => k.isFaithful && x.isFaithful
  | .assigning k [v] _ x => (k.isFaithful && v.isFaithful) && x.isFaithful
  | .assigning _ (_ :: _ :: _) _ _ => false

def Clause.areFaithful : List Clause → Bool
  | [] => true
  | .case x xs b _ :: cs => (x.isFaithful && Node.areFaithful xs) && Stmt.areFaithful b && Clause.areFaithful cs
  | .otherwise b _ :: cs => Stmt.areFaithful b && Clause.areFaithful cs

def CommClause.areFaithful : List CommClause → Bool
  | [] => true
  | .mk c b _ :: cs => Stmt.isFaithfulOption c && Stmt.areFaithful b && CommClause.areFaithful cs

def Decl.isFaithful : Decl → Bool
  | .value _ x _ => x.isFaithful
  | .values _ xs _ => ValueSpec.areFaithful xs
  | .type x _ => x.isFaithful
  | .types xs _ => TypeSpec.areFaithful xs

def ValueSpec.isFaithful : ValueSpec → Bool
  | .mk _ _ t vs => Node.isFaithfulOption t && Node.areFaithful vs

def ValueSpec.areFaithful : List ValueSpec → Bool
  | [] => true
  | x :: xs => x.isFaithful && ValueSpec.areFaithful xs

def TypeSpec.isFaithful : TypeSpec → Bool
  | .mk _ _ _ t => t.isFaithful

def TypeSpec.areFaithful : List TypeSpec → Bool
  | [] => true
  | x :: xs => x.isFaithful && TypeSpec.areFaithful xs

end

def Param.isFaithfulReceiver : Option (List Param) → Bool
  | none => true
  | some ps => Param.areFaithful ps

def Block.isFaithfulOption : Option Block → Bool
  | none => true
  | some b => b.isFaithful

def Func.isFaithful (f : Func) : Bool :=
  Param.isFaithfulReceiver f.recv && f.sig.isFaithful && Block.isFaithfulOption f.body

/-- Whether it has room for an entry at top level. An import has a path in quotes. -/
def Item.isFaithful : Item → Bool
  | .package _ => true
  | .importOne i _ => i.isExact
  | .imports is _ => is.all Import.isExact
  | .func f => f.isFaithful
  | .stmt s => s.isFaithful

/-- Whether an item is a package clause. -/
def Item.isPackage : Item → Bool
  | .package _ => true
  | _ => false

/-- Whether a tree has room for all items of a source: the first is the only package clause. -/
def faithful : List Item → Bool
  | [] => false
  | i :: is => i.isPackage && is.all (fun j => !j.isPackage) && is.all Item.isFaithful

/-! ## How expressions start -/

theorem starts_left {ps : List Piece} (h : allKept ps → allPlain ps → Starts ps) (qs : List Piece)
    (hkept : allKept (ps ++ qs)) (hplain : allPlain (ps ++ qs)) : Starts (ps ++ qs) := by
  rw [allKept_append, Bool.and_eq_true] at hkept
  rw [allPlain_append, Bool.and_eq_true] at hplain
  exact (h hkept.1 hplain.1).append qs

theorem starts_name {n : String} {p : Piece} (hp : p.marks = marksOf n) (hplain : p.isPlain = Lexical.isWord n)
    (ps : List Piece) (h : allPlain (p :: ps)) : Starts (p :: ps) := by
  rw [allPlain, hplain, Bool.and_eq_true] at h
  exact .word h.1 hp ps

theorem starts_literal (l : BasicLit) (h : allPlain [lit l]) : Starts [lit l] := by
  rw [allPlain, Bool.and_eq_true] at h
  obtain ⟨m, hm, hdots⟩ := marks_of_literal h.1
  exact .of_mark (p := .lit l) (by rw [Piece.marks, hm]; rfl) hdots []

theorem Node.starts_base (x : Node) (h : allKept x.pieces → allPlain x.pieces → Starts x.pieces)
    (hkept : allKept x.basePieces) (hplain : allPlain x.basePieces) : Starts x.basePieces := by
  obtain ⟨k, p⟩ := x
  cases k with
  | name n => exact starts_name rfl rfl [] hplain
  | _ => exact h hkept hplain

/-- The first mark of an expression is not the dots, by recursion on what stands first in it. -/
theorem Node.starts : ∀ x : Node, allKept x.pieces → allPlain x.pieces → Starts x.pieces
  | .mk (.name _) _, _, hplain => starts_name rfl rfl [] hplain
  | .mk (.literal l) _, _, hplain => starts_literal l hplain
  | .mk (.paren x) _, hkept, hplain => .behind_silent [_] rfl (starts_left x.starts _ hkept hplain)
  | .mk (.select x m) _, hkept, hplain =>
    starts_left (fun hkept hplain => x.starts_base x.starts hkept hplain) [sym ".", name m.text] hkept hplain
  | .mk (.index x i) _, hkept, hplain => starts_left x.starts (brackets i.pieces) hkept hplain
  | .mk (.slice x _ _) _, hkept, hplain => starts_left x.starts _ hkept hplain
  | .mk (.slice3 x _ _ _) _, hkept, hplain => starts_left x.starts _ hkept hplain
  | .mk (.assert x _) _, hkept, hplain => starts_left x.starts _ hkept hplain
  | .mk (.call f _) _, hkept, hplain => starts_left f.starts _ hkept hplain
  | .mk (.convert t _) _, hkept, hplain => starts_left t.starts _ hkept hplain
  | .mk (.star _) _, _, _ => .of_text "*" rfl _
  | .mk (.unary o _) _, _, _ => by
    cases o with
    | plus => exact .of_text "+" rfl _
    | minus => exact .of_text "-" rfl _
    | not => exact .of_text "!" rfl _
    | complement => exact .of_text "^" rfl _
    | address => exact .of_text "&" rfl _
    | receive => exact .of_text "<-" rfl _
  | .mk (.binary x o y) _, hkept, hplain =>
    starts_left (starts_left x.starts [sym o]) y.pieces hkept hplain
  | .mk (.composite t _) _, hkept, hplain => starts_left t.starts _ hkept hplain
  | .mk (.braces _) _, _, _ => .of_text "\x7b" rfl _
  | .mk (.keyed k v) _, hkept, hplain =>
    starts_left (starts_left k.starts [sym ":"]) v.pieces hkept hplain
  | .mk (.func _ _) _, _, _ => .of_text "func" rfl _
  | .mk (.array _ _) _, _, _ => .of_text "[" rfl _
  | .mk (.openArray _) _, _, _ => .of_text "[" rfl _
  | .mk (.sliceOf _) _, _, _ => .of_text "[" rfl _
  | .mk (.struct _) _, _, _ => .of_text "struct" rfl _
  | .mk (.interface _) _, _, _ => .of_text "interface" rfl _
  | .mk (.map _ _) _, _, _ => .of_text "map" rfl _
  | .mk (.chan d _) _, _, _ => by
    cases d with
    | both => exact .of_text "chan" rfl _
    | send => exact .of_text "chan" rfl _
    | recv => exact .of_text "<-" rfl _
  | .mk (.funcType _) _, _, _ => .of_text "func" rfl _
  | .mk (.generic _ _) _, hkept, _ => nomatch hkept

end GoRebuild.Grammar
