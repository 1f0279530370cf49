import GoRebuild.Tree.Basic

/-!
# The shape of trees that come from a source

A tree that was read keeps to what the types of trees leave open. `Expr.Shaped`, `Stmt.Shaped`,
`GenDecl.Shaped` and the rest state it of a tree and of all its parts:

* a call that spreads its last argument has one;
* a slice has a third index exactly if it says so;
* only the fields of structs have tags;
* a `range` has an operator exactly if it has a variable, and a second variable only behind a first;
* an `else` is followed by a block or an `if`;
* an entry of a `const` or `var` has a name;
* a declaration without parentheses has one entry.
-/

namespace GoRebuild

/-- Whether a statement can follow `else`. -/
def Stmt.followsElse : Stmt → Bool
  | .mk (.block _) _ | .mk (.ifStmt _ _ _ _) _ => true
  | _ => false

/-- No field has a tag. -/
def Field.Untagged (fs : List Field) : Prop :=
  ∀ f ∈ fs, f.tag = none

mutual

def Expr.Shaped : Expr → Prop
  | .mk k _ => k.Shaped

def ExprKind.Shaped : ExprKind → Prop
  | .bad _ | .ident _ | .basicLit _ => True
  | .ellipsis t => Expr.OptionShaped t
  | .funcLit t b => t.Shaped ∧ b.Shaped
  | .compositeLit t es => Expr.OptionShaped t ∧ Expr.AllShaped es
  | .paren x | .star x | .unary _ x | .selector x _ | .chanType _ x => x.Shaped
  | .index x y | .binary x _ y | .keyValue x y | .mapType x y => x.Shaped ∧ y.Shaped
  | .slice x low high max slice3 =>
    x.Shaped ∧ Expr.OptionShaped low ∧ Expr.OptionShaped high ∧ Expr.OptionShaped max
      ∧ slice3 = max.isSome
  | .typeAssert x t => x.Shaped ∧ Expr.OptionShaped t
  | .call f as ellipsis => f.Shaped ∧ Expr.AllShaped as ∧ (ellipsis → as ≠ [])
  | .arrayType n t => Expr.OptionShaped n ∧ t.Shaped
  | .structType fs => Field.AllShaped fs
  | .funcType t => t.Shaped
  | .interfaceType ms => Field.AllShaped ms ∧ Field.Untagged ms

def Expr.OptionShaped : Option Expr → Prop
  | none => True
  | some x => x.Shaped

def Expr.AllShaped : List Expr → Prop
  | [] => True
  | x :: xs => x.Shaped ∧ Expr.AllShaped xs

def FuncType.Shaped : FuncType → Prop
  | .mk ps none => Field.AllShaped ps ∧ Field.Untagged ps
  | .mk ps (some rs) =>
    (Field.AllShaped ps ∧ Field.Untagged ps) ∧ Field.AllShaped rs ∧ Field.Untagged rs

def Field.Shaped : Field → Prop
  | .mk _ t _ => t.Shaped

def Field.AllShaped : List Field → Prop
  | [] => True
  | f :: fs => f.Shaped ∧ Field.AllShaped fs

def Block.Shaped : Block → Prop
  | .mk ss _ => Stmt.AllShaped ss

def Stmt.Shaped : Stmt → Prop
  | .mk k _ => k.Shaped

def Stmt.AllShaped : List Stmt → Prop
  | [] => True
  | x :: xs => x.Shaped ∧ Stmt.AllShaped xs

def Stmt.OptionShaped : Option Stmt → Prop
  | none => True
  | some x => x.Shaped

def StmtKind.Shaped : StmtKind → Prop
  | .bad _ | .empty | .branch _ _ => True
  | .decl d => d.Shaped
  | .labeled _ x => x.Shaped
  | .expr x | .incDec x _ | .goStmt x | .deferStmt x => x.Shaped
  | .send x y => x.Shaped ∧ y.Shaped
  | .assign l _ r => Expr.AllShaped l ∧ Expr.AllShaped r
  | .returnStmt rs => Expr.AllShaped rs
  | .block b | .selectStmt b => b.Shaped
  | .ifStmt i c b e =>
    Stmt.OptionShaped i ∧ c.Shaped ∧ b.Shaped ∧ Stmt.OptionShaped e ∧ e.all Stmt.followsElse
  | .caseClause xs b => Expr.AllShaped xs ∧ Stmt.AllShaped b
  | .switchStmt i t b => Stmt.OptionShaped i ∧ Expr.OptionShaped t ∧ b.Shaped
  | .typeSwitch i a b => Stmt.OptionShaped i ∧ a.Shaped ∧ b.Shaped
  | .commClause c b => Stmt.OptionShaped c ∧ Stmt.AllShaped b
  | .forStmt i c p b =>
    Stmt.OptionShaped i ∧ Expr.OptionShaped c ∧ Stmt.OptionShaped p ∧ b.Shaped
  | .rangeStmt k v t x b =>
    Expr.OptionShaped k ∧ Expr.OptionShaped v ∧ x.Shaped ∧ b.Shaped
      ∧ t.isSome = k.isSome ∧ (v.isSome → k.isSome)

def GenDecl.Shaped : GenDecl → Prop
  | .mk _ _ grouped specs => Spec.AllShaped specs ∧ (grouped = false → specs.length = 1)

def Spec.Shaped : Spec → Prop
  | .imported _ => True
  | .value ns t vs => ns ≠ [] ∧ Expr.OptionShaped t ∧ Expr.AllShaped vs
  | .type _ _ t => t.Shaped

def Spec.AllShaped : List Spec → Prop
  | [] => True
  | x :: xs => x.Shaped ∧ Spec.AllShaped xs

end

def Field.ReceiverShaped : Option (List Field) → Prop
  | none => True
  | some fs => Field.AllShaped fs ∧ Field.Untagged fs

def Block.OptionShaped : Option Block → Prop
  | none => True
  | some b => b.Shaped

def FuncDecl.Shaped (d : FuncDecl) : Prop :=
  Field.ReceiverShaped d.recv ∧ d.ty.Shaped ∧ Block.OptionShaped d.body

def Decl.Shaped : Decl → Prop
  | .gen d => d.Shaped
  | .func d => d.Shaped

end GoRebuild
