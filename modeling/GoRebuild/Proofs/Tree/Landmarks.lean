import GoRebuild.Proofs.Program.Isolation
import GoRebuild.Proofs.Tree.Shape

/-!
# The landmarks of a tree

What of a tree can be found again in its chain, whatever else is written around it:

* `Landmark` : a selector on a bare identifier, a node whose parts are arguments of one call, the names of a value;
* `Expr.landmarks`, `Stmt.landmarks`, `GenDecl.landmarks`, `FuncDecl.landmarks`, `File.landmarks`, `Request.landmarks` :
  those of a tree, in the order of its parts;
* `AllNamed` : each entry of a `const` or `var` has a name; it does in trees that come from a source
  (`Decl.allNamed_of_shaped`).

Two parts of trees stand for nothing and are left out: the third index of a slice that is not marked to have one, and the
variables of a `range` without an operator. A source gives neither (`GoRebuild.Proofs.Tree.Shape`).
-/

namespace GoRebuild

/-- Something in a tree that its chain accounts for. -/
inductive Landmark where
  /-- a selector whose base is an identifier without anything around it -/
  | selector (base member : String)
  /-- a node whose parts are the arguments of one call, and how many parts there are -/
  | group (method : String) (size : Nat)
  /-- the names of an entry of a `const` or `var` -/
  | names (ns : List String)
  deriving DecidableEq, Repr

/-- The identifier that an expression is, with nothing around it. -/
def Expr.bareName? : Expr → Option String
  | .mk (.ident n) _ => some n
  | _ => none

/-- Only such an identifier is looked up. -/
theorem Scope.qualifier?_eq (s : Scope) (x : Expr) : s.qualifier? x = x.bareName?.bind s.table.resolve := by
  obtain ⟨k, p⟩ := x
  cases k <;> rfl

mutual

/-- The landmarks of an expression or type. -/
def Expr.landmarks : Expr → List Landmark
  | .mk k _ => k.landmarks

def ExprKind.landmarks : ExprKind → List Landmark
  | .bad _ | .ident _ | .basicLit _ => []
  | .ellipsis t => Expr.optionLandmarks t
  | .funcLit t b => t.landmarks ++ b.landmarks
  | .compositeLit t es => Expr.optionLandmarks t ++ .group "Values" es.length :: Expr.listLandmarks es
  | .paren x | .star x | .unary _ x | .chanType _ x => x.landmarks
  | .selector x sel =>
    match x.bareName? with
    | some base => [.selector base sel.name]
    | none => x.landmarks
  | .index x y | .binary x _ y | .keyValue x y | .mapType x y => x.landmarks ++ y.landmarks
  | .slice x low high max slice3 =>
    x.landmarks ++ (Expr.optionLandmarks low ++ (Expr.optionLandmarks high
      ++ if slice3 then Expr.optionLandmarks max else []))
  | .typeAssert x t => x.landmarks ++ Expr.optionLandmarks t
  | .call f as _ => f.landmarks ++ .group "Call" as.length :: Expr.listLandmarks as
  | .arrayType n t => Expr.optionLandmarks n ++ t.landmarks
  | .structType fs => .group "Struct" fs.length :: Field.listLandmarks fs
  | .funcType t => t.landmarks
  | .interfaceType ms => .group "Interface" ms.length :: Field.listLandmarks ms

def Expr.optionLandmarks : Option Expr → List Landmark
  | none => []
  | some x => x.landmarks

def Expr.listLandmarks : List Expr → List Landmark
  | [] => []
  | x :: xs => x.landmarks ++ Expr.listLandmarks xs

/-- Parameters and results. One unnamed result is no part of a list. -/
def FuncType.landmarks : FuncType → List Landmark
  | .mk ps none => .group "Params" ps.length :: Field.listLandmarks ps
  | .mk ps (some [.mk [] t _]) => .group "Params" ps.length :: Field.listLandmarks ps ++ t.landmarks
  | .mk ps (some rs) =>
    .group "Params" ps.length :: Field.listLandmarks ps ++ .group "Params" rs.length :: Field.listLandmarks rs

def Field.landmarks : Field → List Landmark
  | .mk _ t _ => t.landmarks

def Field.listLandmarks : List Field → List Landmark
  | [] => []
  | f :: fs => f.landmarks ++ Field.listLandmarks fs

def Block.landmarks : Block → List Landmark
  | .mk ss _ => .group "Block" ss.length :: Stmt.listLandmarks ss

def Stmt.landmarks : Stmt → List Landmark
  | .mk k _ => k.landmarks

def Stmt.listLandmarks : List Stmt → List Landmark
  | [] => []
  | x :: xs => x.landmarks ++ Stmt.listLandmarks xs

def Stmt.optionLandmarks : Option Stmt → List Landmark
  | none => []
  | some x => x.landmarks

def StmtKind.landmarks : StmtKind → List Landmark
  | .bad _ | .empty | .branch _ _ => []
  | .decl d => d.landmarks
  | .labeled _ x => x.landmarks
  | .expr x | .incDec x _ | .goStmt x | .deferStmt x => x.landmarks
  | .send x y => x.landmarks ++ y.landmarks
  | .assign l _ r => Expr.listLandmarks l ++ Expr.listLandmarks r
  | .returnStmt rs => Expr.listLandmarks rs
  | .block b | .selectStmt b => b.landmarks
  | .ifStmt i c b e => Stmt.optionLandmarks i ++ c.landmarks ++ b.landmarks ++ Stmt.optionLandmarks e
  | .caseClause [] b => .group "Block" b.length :: Stmt.listLandmarks b
  | .caseClause xs b =>
    .group "Case" xs.length :: Expr.listLandmarks xs ++ .group "Block" b.length :: Stmt.listLandmarks b
  | .switchStmt i t b => Stmt.optionLandmarks i ++ Expr.optionLandmarks t ++ b.landmarks
  | .typeSwitch i a b => Stmt.optionLandmarks i ++ a.landmarks ++ b.landmarks
  | .commClause none b => .group "Block" b.length :: Stmt.listLandmarks b
  | .commClause (some c) b => .group "Case" 1 :: c.landmarks ++ .group "Block" b.length :: Stmt.listLandmarks b
  | .forStmt i c p b => Stmt.optionLandmarks i ++ (Expr.optionLandmarks c ++ Stmt.optionLandmarks p) ++ b.landmarks
  | .rangeStmt _ _ none x b => x.landmarks ++ b.landmarks
  | .rangeStmt k v (some _) x b => Expr.optionLandmarks k ++ Expr.optionLandmarks v ++ x.landmarks ++ b.landmarks

/-- A declaration with a keyword. One entry without parentheses is no part of a list. -/
def GenDecl.landmarks : GenDecl → List Landmark
  | .mk _ _ false [x] => x.landmarks
  | .mk _ _ _ xs => .group "Defs" xs.length :: Spec.listLandmarks xs

def Spec.landmarks : Spec → List Landmark
  | .imported _ => []
  | .value ns t vs => .names (ns.map Ident.name) :: Expr.optionLandmarks t ++ Expr.listLandmarks vs
  | .type _ _ t => t.landmarks

def Spec.listLandmarks : List Spec → List Landmark
  | [] => []
  | x :: xs => x.landmarks ++ Spec.listLandmarks xs

end

/-- A selector on an identifier is a landmark itself. -/
theorem ExprKind.landmarks_selector (x : Expr) (sel : Ident) :
    (ExprKind.selector x sel).landmarks =
      match x.bareName? with
      | some base => [.selector base sel.name]
      | none => x.landmarks := rfl

def Field.receiverLandmarks : Option (List Field) → List Landmark
  | none => []
  | some fs => .group "Params" fs.length :: Field.listLandmarks fs

def Block.optionLandmarks : Option Block → List Landmark
  | none => []
  | some b => b.landmarks

def FuncDecl.landmarks (d : FuncDecl) : List Landmark :=
  Field.receiverLandmarks d.recv ++ d.ty.landmarks ++ Block.optionLandmarks d.body

/-- A declaration at top level. Imports have no chain. -/
def Decl.landmarks : Decl → List Landmark
  | .gen (.mk .importTok _ _ _) => []
  | .gen d => d.landmarks
  | .func d => d.landmarks

/-- The landmarks of the declarations of a file. -/
def File.landmarks (file : File) : List Landmark :=
  file.decls.flatMap Decl.landmarks

/-- What a request asks for. -/
def Request.landmarks : Request → List Landmark
  | .expr x | .type x => x.landmarks
  | .exprs xs | .listed xs => Expr.listLandmarks xs
  | .signature t => t.landmarks
  | .stmt x => x.landmarks
  | .block b => b.landmarks
  | .gen d => d.landmarks
  | .func d => d.landmarks
  | .decl d => d.landmarks

theorem Expr.landmarks_of_bareName {x : Expr} {n : String} (h : x.bareName? = some n) : x.landmarks = [] := by
  unfold Expr.bareName? at h
  split at h
  · rfl
  · cases h

/-! ## Values with names -/

/-- Each entry of a `const` or `var` has a name. -/
def AllNamed (ls : List Landmark) : Prop :=
  .names [] ∉ ls

@[simp] theorem allNamed_nil : AllNamed [] :=
  List.not_mem_nil

@[simp] theorem allNamed_append {ls ms : List Landmark} : AllNamed (ls ++ ms) ↔ AllNamed ls ∧ AllNamed ms := by
  unfold AllNamed
  rw [List.mem_append, not_or]

@[simp] theorem allNamed_group {m : String} {n : Nat} {ls : List Landmark} : AllNamed (.group m n :: ls) ↔ AllNamed ls := by
  simp [AllNamed]

@[simp] theorem allNamed_selector {base member : String} {ls : List Landmark} :
    AllNamed (.selector base member :: ls) ↔ AllNamed ls := by
  simp [AllNamed]

@[simp] theorem allNamed_names {ns : List String} {ls : List Landmark} :
    AllNamed (.names ns :: ls) ↔ ns ≠ [] ∧ AllNamed ls := by
  simp [AllNamed, eq_comm]

mutual

theorem Expr.allNamed_of_shaped : ∀ e : Expr, e.Shaped → AllNamed e.landmarks
  | .mk k _, h => ExprKind.allNamed_of_shaped k h

theorem ExprKind.allNamed_of_shaped : ∀ k : ExprKind, k.Shaped → AllNamed k.landmarks
  | .bad _, _ | .ident _, _ | .basicLit _, _ => allNamed_nil
  | .ellipsis t, h => Expr.allNamed_of_optionShaped t h
  | .funcLit t b, h => allNamed_append.mpr ⟨FuncType.allNamed_of_shaped t h.1, Block.allNamed_of_shaped b h.2⟩
  | .compositeLit t es, h =>
    allNamed_append.mpr ⟨Expr.allNamed_of_optionShaped t h.1, allNamed_group.mpr (Expr.allNamed_of_allShaped es h.2)⟩
  | .paren x, h | .star x, h | .unary _ x, h | .chanType _ x, h => Expr.allNamed_of_shaped x h
  | .selector x sel, h => by
    have hx := Expr.allNamed_of_shaped x h
    rw [ExprKind.landmarks_selector]
    split
    · exact allNamed_selector.mpr allNamed_nil
    · exact hx
  | .index x y, h | .binary x _ y, h | .keyValue x y, h | .mapType x y, h =>
    allNamed_append.mpr ⟨Expr.allNamed_of_shaped x h.1, Expr.allNamed_of_shaped y h.2⟩
  | .slice x low high max slice3, h => by
    obtain ⟨hx, hlow, hhigh, hmax, -⟩ := h
    refine allNamed_append.mpr ⟨Expr.allNamed_of_shaped x hx, ?_⟩
    refine allNamed_append.mpr ⟨Expr.allNamed_of_optionShaped low hlow, ?_⟩
    refine allNamed_append.mpr ⟨Expr.allNamed_of_optionShaped high hhigh, ?_⟩
    split
    · exact Expr.allNamed_of_optionShaped max hmax
    · exact allNamed_nil
  | .typeAssert x t, h => allNamed_append.mpr ⟨Expr.allNamed_of_shaped x h.1, Expr.allNamed_of_optionShaped t h.2⟩
  | .call f as _, h =>
    allNamed_append.mpr ⟨Expr.allNamed_of_shaped f h.1, allNamed_group.mpr (Expr.allNamed_of_allShaped as h.2.1)⟩
  | .arrayType n t, h => allNamed_append.mpr ⟨Expr.allNamed_of_optionShaped n h.1, Expr.allNamed_of_shaped t h.2⟩
  | .structType fs, h => allNamed_group.mpr (Field.allNamed_of_allShaped fs h)
  | .funcType t, h => FuncType.allNamed_of_shaped t h
  | .interfaceType ms, h => allNamed_group.mpr (Field.allNamed_of_allShaped ms h.1)

theorem Expr.allNamed_of_optionShaped : ∀ x : Option Expr, Expr.OptionShaped x → AllNamed (Expr.optionLandmarks x)
  | none, _ => allNamed_nil
  | some x, h => Expr.allNamed_of_shaped x h

theorem Expr.allNamed_of_allShaped : ∀ xs : List Expr, Expr.AllShaped xs → AllNamed (Expr.listLandmarks xs)
  | [], _ => allNamed_nil
  | x :: xs, h => allNamed_append.mpr ⟨Expr.allNamed_of_shaped x h.1, Expr.allNamed_of_allShaped xs h.2⟩

theorem FuncType.allNamed_of_shaped : ∀ t : FuncType, t.Shaped → AllNamed t.landmarks
  | .mk ps none, h => allNamed_group.mpr (Field.allNamed_of_allShaped ps h.1)
  | .mk ps (some rs), h => by
    obtain ⟨hps, hrs, -⟩ := h
    have hparams := allNamed_group (m := "Params") (n := ps.length) |>.mpr (Field.allNamed_of_allShaped ps hps.1)
    have hresults := Field.allNamed_of_allShaped rs hrs
    rw [FuncType.landmarks.eq_def]
    split
    · rename_i heq
      cases heq
    · rename_i t tag heq
      cases heq
      rw [Field.listLandmarks, Field.landmarks, Field.listLandmarks, List.append_nil] at hresults
      exact allNamed_append.mpr ⟨hparams, hresults⟩
    · rename_i heq
      cases heq
      exact allNamed_append.mpr ⟨hparams, allNamed_group.mpr hresults⟩

theorem Field.allNamed_of_shaped : ∀ f : Field, f.Shaped → AllNamed f.landmarks
  | .mk _ t _, h => Expr.allNamed_of_shaped t h

theorem Field.allNamed_of_allShaped : ∀ fs : List Field, Field.AllShaped fs → AllNamed (Field.listLandmarks fs)
  | [], _ => allNamed_nil
  | f :: fs, h => allNamed_append.mpr ⟨Field.allNamed_of_shaped f h.1, Field.allNamed_of_allShaped fs h.2⟩

theorem Block.allNamed_of_shaped : ∀ b : Block, b.Shaped → AllNamed b.landmarks
  | .mk ss _, h => allNamed_group.mpr (Stmt.allNamed_of_allShaped ss h)

theorem Stmt.allNamed_of_shaped : ∀ x : Stmt, x.Shaped → AllNamed x.landmarks
  | .mk k _, h => StmtKind.allNamed_of_shaped k h

theorem Stmt.allNamed_of_allShaped : ∀ ss : List Stmt, Stmt.AllShaped ss → AllNamed (Stmt.listLandmarks ss)
  | [], _ => allNamed_nil
  | x :: xs, h => allNamed_append.mpr ⟨Stmt.allNamed_of_shaped x h.1, Stmt.allNamed_of_allShaped xs h.2⟩

theorem Stmt.allNamed_of_optionShaped : ∀ x : Option Stmt, Stmt.OptionShaped x → AllNamed (Stmt.optionLandmarks x)
  | none, _ => allNamed_nil
  | some x, h => Stmt.allNamed_of_shaped x h

theorem StmtKind.allNamed_of_shaped : ∀ k : StmtKind, k.Shaped → AllNamed k.landmarks
  | .bad _, _ | .empty, _ | .branch _ _, _ => allNamed_nil
  | .decl d, h => GenDecl.allNamed_of_shaped d h
  | .labeled _ x, h => Stmt.allNamed_of_shaped x h
  | .expr x, h | .incDec x _, h | .goStmt x, h | .deferStmt x, h => Expr.allNamed_of_shaped x h
  | .send x y, h => allNamed_append.mpr ⟨Expr.allNamed_of_shaped x h.1, Expr.allNamed_of_shaped y h.2⟩
  | .assign l _ r, h => allNamed_append.mpr ⟨Expr.allNamed_of_allShaped l h.1, Expr.allNamed_of_allShaped r h.2⟩
  | .returnStmt rs, h => Expr.allNamed_of_allShaped rs h
  | .block b, h | .selectStmt b, h => Block.allNamed_of_shaped b h
  | .ifStmt i c b e, h => by
    obtain ⟨hi, hc, hb, he, -⟩ := h
    have hheader := allNamed_append.mpr ⟨Stmt.allNamed_of_optionShaped i hi, Expr.allNamed_of_shaped c hc⟩
    have hbody := allNamed_append.mpr ⟨hheader, Block.allNamed_of_shaped b hb⟩
    exact allNamed_append.mpr ⟨hbody, Stmt.allNamed_of_optionShaped e he⟩
  | .caseClause [] b, h => allNamed_group.mpr (Stmt.allNamed_of_allShaped b h.2)
  | .caseClause (x :: xs) b, h =>
    allNamed_append.mpr ⟨allNamed_group.mpr (Expr.allNamed_of_allShaped (x :: xs) h.1),
      allNamed_group.mpr (Stmt.allNamed_of_allShaped b h.2)⟩
  | .switchStmt i t b, h => by
    obtain ⟨hi, ht, hb⟩ := h
    have hheader := allNamed_append.mpr ⟨Stmt.allNamed_of_optionShaped i hi, Expr.allNamed_of_optionShaped t ht⟩
    exact allNamed_append.mpr ⟨hheader, Block.allNamed_of_shaped b hb⟩
  | .typeSwitch i a b, h => by
    obtain ⟨hi, ha, hb⟩ := h
    have hheader := allNamed_append.mpr ⟨Stmt.allNamed_of_optionShaped i hi, Stmt.allNamed_of_shaped a ha⟩
    exact allNamed_append.mpr ⟨hheader, Block.allNamed_of_shaped b hb⟩
  | .commClause none b, h => allNamed_group.mpr (Stmt.allNamed_of_allShaped b h.2)
  | .commClause (some c) b, h =>
    allNamed_append.mpr ⟨allNamed_group.mpr (Stmt.allNamed_of_shaped c h.1),
      allNamed_group.mpr (Stmt.allNamed_of_allShaped b h.2)⟩
  | .forStmt i c p b, h => by
    obtain ⟨hi, hc, hp, hb⟩ := h
    have hpost := allNamed_append.mpr ⟨Expr.allNamed_of_optionShaped c hc, Stmt.allNamed_of_optionShaped p hp⟩
    have hheader := allNamed_append.mpr ⟨Stmt.allNamed_of_optionShaped i hi, hpost⟩
    exact allNamed_append.mpr ⟨hheader, Block.allNamed_of_shaped b hb⟩
  | .rangeStmt _ _ none x b, h => by
    obtain ⟨-, -, hx, hb, -⟩ := h
    exact allNamed_append.mpr ⟨Expr.allNamed_of_shaped x hx, Block.allNamed_of_shaped b hb⟩
  | .rangeStmt k v (some _) x b, h => by
    obtain ⟨hk, hv, hx, hb, -⟩ := h
    have hvariables := allNamed_append.mpr ⟨Expr.allNamed_of_optionShaped k hk, Expr.allNamed_of_optionShaped v hv⟩
    have hheader := allNamed_append.mpr ⟨hvariables, Expr.allNamed_of_shaped x hx⟩
    exact allNamed_append.mpr ⟨hheader, Block.allNamed_of_shaped b hb⟩

theorem GenDecl.allNamed_of_shaped : ∀ d : GenDecl, d.Shaped → AllNamed d.landmarks
  | .mk _ _ grouped xs, h => by
    have hspecs := Spec.allNamed_of_allShaped xs h.1
    rw [GenDecl.landmarks.eq_def]
    split
    · rename_i heq
      cases heq
      rwa [Spec.listLandmarks, Spec.listLandmarks, List.append_nil] at hspecs
    · rename_i heq
      cases heq
      exact allNamed_group.mpr hspecs

theorem Spec.allNamed_of_shaped : ∀ x : Spec, x.Shaped → AllNamed x.landmarks
  | .imported _, _ => allNamed_nil
  | .value ns t vs, h => by
    obtain ⟨hns, ht, hvs⟩ := h
    have hnames : ns.map Ident.name ≠ [] := by rwa [ne_eq, List.map_eq_nil_iff]
    have htype := allNamed_names.mpr ⟨hnames, Expr.allNamed_of_optionShaped t ht⟩
    exact allNamed_append.mpr ⟨htype, Expr.allNamed_of_allShaped vs hvs⟩
  | .type _ _ t, h => Expr.allNamed_of_shaped t h

theorem Spec.allNamed_of_allShaped : ∀ xs : List Spec, Spec.AllShaped xs → AllNamed (Spec.listLandmarks xs)
  | [], _ => allNamed_nil
  | x :: xs, h => allNamed_append.mpr ⟨Spec.allNamed_of_shaped x h.1, Spec.allNamed_of_allShaped xs h.2⟩

end

theorem FuncDecl.allNamed_of_shaped (d : FuncDecl) (h : d.Shaped) : AllNamed d.landmarks := by
  obtain ⟨recv, n, t, body, pos⟩ := d
  obtain ⟨hrecv, ht, hbody⟩ := h
  have hreceiver : AllNamed (Field.receiverLandmarks recv) := by
    cases recv with
    | none => exact allNamed_nil
    | some fs => exact allNamed_group.mpr (Field.allNamed_of_allShaped fs hrecv.1)
  have hblock : AllNamed (Block.optionLandmarks body) := by
    cases body with
    | none => exact allNamed_nil
    | some b => exact Block.allNamed_of_shaped b hbody
  exact allNamed_append.mpr ⟨allNamed_append.mpr ⟨hreceiver, FuncType.allNamed_of_shaped t ht⟩, hblock⟩

/-- Where a tree comes from a source, each entry of a `const` or `var` has a name. -/
theorem Decl.allNamed_of_shaped (d : Decl) (h : d.Shaped) : AllNamed d.landmarks := by
  unfold Decl.landmarks
  split
  · exact allNamed_nil
  · exact GenDecl.allNamed_of_shaped _ h
  · exact FuncDecl.allNamed_of_shaped _ h

end GoRebuild
