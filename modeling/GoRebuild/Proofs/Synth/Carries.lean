import GoRebuild.Proofs.Tree.Landmarks
import GoRebuild.Proofs.Tree.Moved

/-!
# Two syntheses of one tree

Where nodes stand decides about the positions of failures, how deep nodes may be nested decides about whether there is a
chain, and a table of imports decides about the selectors on identifiers. None of them decides about anything else.

* `Synth.Carried same g h r r'` : what a computation answers another answers too, unless the first is nested too deep: the
  same chain, or the same refusal at the position that `g` moves it to. If `same` holds, the other is nested too deep at
  that position as well where the first is;
* `Synth.Carries same g h act act'` : so it is with two computations at every depth;
* `AgreeOn t t' ls` : two tables resolve the bases of the selectors among some landmarks alike;
* `Expr.carries_synth`, `Stmt.carries_synth`, `GenDecl.carries_synth`, `FuncDecl.carries_synth` : the chain of a tree is the
  chain of the tree elsewhere, with such a table and no lower a limit;
* `Decl.carries_chain`, `Decl.carries_synth` : so it is with generators;
* `Request.carries_run` : so it is with every request.
-/

namespace GoRebuild

namespace Synth

variable {α β γ : Type}

/-- Unless the first is nested too deep, two computations end at the same depth and answer the same to a function, or
refuse the same. For the nesting, both fail if they are to. -/
inductive Carried (same : Prop) (g : Pos → Pos) (h : α → γ) :
    Except SynthError α × Nat → Except SynthError α × Nat → Prop
  | ok {a a' depth} : h a = h a' → Carried same g h (.ok a, depth) (.ok a', depth)
  | unsupported {kind pos depth} :
    Carried same g h (.error (.unsupported kind pos), depth) (.error (.unsupported kind (g pos)), depth)
  | tooDeep {limit pos depth r} : (same → r = (.error (.tooDeep limit (g pos)), depth)) →
    Carried same g h (.error (.tooDeep limit pos), depth) r

/-- What one computation answers another answers too, at every depth where the first is not nested too deep. -/
def Carries (same : Prop) (g : Pos → Pos) (h : α → γ) (act act' : Synth α) : Prop :=
  ∀ depth, Carried same g h (act.run.run depth) (act'.run.run depth)

variable {same : Prop} {g : Pos → Pos} {h : α → γ} {act act' : Synth α}

theorem Carries.pure {a a' : α} (ha : h a = h a') : Carries same g h (pure a : Synth α) (pure a') :=
  fun _ => .ok ha

/-- Where nothing moves and failures for the nesting count, the two are one. -/
theorem Carries.eq (hact : Carries same id id act act') (hsame : same) : act = act' := by
  funext depth
  have hcarried : Carried same id id (act depth) (act' depth) := hact depth
  generalize act depth = r at hcarried ⊢
  generalize act' depth = r' at hcarried ⊢
  cases hcarried with
  | @ok a a' d ha =>
    obtain rfl : a = a' := ha
    rfl
  | unsupported => rfl
  | tooDeep hr => exact (hr hsame).symm

theorem Carries.unsupported (kind : String) (pos : Pos) :
    Carries same g h (unsupported kind pos : Synth α) (unsupported kind (g pos)) :=
  fun _ => .unsupported

theorem Carries.bind {act act' : Synth β} {f f' : β → Synth α} (hact : Carries same g id act act')
    (hf : ∀ b, Carries same g h (f b) (f' b)) : Carries same g h (act >>= f) (act' >>= f') := by
  intro depth
  have hcarried := hact depth
  rw [run_bind, run_bind]
  generalize act.run.run depth = r at hcarried
  generalize act'.run.run depth = r' at hcarried
  cases hcarried with
  | @ok b b' d hb =>
    obtain rfl : b = b' := hb
    exact hf b d
  | unsupported => exact .unsupported
  | tooDeep hr =>
    refine .tooDeep fun hsame => ?_
    rw [hr hsame]

/-- A step whose answer is only passed on. -/
theorem Carries.map {act act' : Synth β} (hact : Carries same g id act act') (f : β → α) :
    Carries same g id (act >>= fun b => Pure.pure (f b)) (act' >>= fun b => Pure.pure (f b)) :=
  hact.bind fun _ => .pure rfl

/-- A step that only gives an answer. -/
theorem carries_pure_bind (b : β) {f f' : β → Synth α} (hf : Carries same g h (f b) (f' b)) :
    Carries same g h (Pure.pure b >>= f) (Pure.pure b >>= f') := by
  intro depth
  rw [run_bind, run_bind]
  exact hf depth

theorem Carries.nested {table table' : SymbolTable} {l l' : Nat} (hl : l ≤ l') {pos : Pos}
    (hact : Carries (l = l') g h act act') :
    Carries (l = l') g h (nested ⟨table, l⟩ pos act) (nested ⟨table', l'⟩ (g pos) act') := by
  intro depth
  change Carried (l = l') g h (Synth.nested ⟨table, l⟩ pos act depth) (Synth.nested ⟨table', l'⟩ (g pos) act' depth)
  unfold Synth.nested
  split
  · rename_i hdepth
    refine .tooDeep fun hsame => ?_
    rw [← hsame, if_pos hdepth]
  · rename_i hdepth
    have hcarried : Carried (l = l') g h (act (depth + 1)) (act' (depth + 1)) := hact (depth + 1)
    rw [if_neg fun hle => hdepth (Nat.le_trans hl hle)]
    generalize act (depth + 1) = r at hcarried
    generalize act' (depth + 1) = r' at hcarried
    cases hcarried with
    | ok ha => exact .ok ha
    | unsupported => exact .unsupported
    | tooDeep hr =>
      refine .tooDeep fun hsame => ?_
      rw [hr hsame]

end Synth

open Synth

/-! ## Tables -/

/-- Two tables resolve alike what stands alone before the dot of a selector. -/
def AgreeOn (t t' : SymbolTable) (ls : List Landmark) : Prop :=
  ∀ base member, .selector base member ∈ ls → t.resolve base = t'.resolve base

section
variable {t t' : SymbolTable} {ls ms : List Landmark}

theorem AgreeOn.refl (t : SymbolTable) (ls : List Landmark) : AgreeOn t t ls :=
  fun _ _ _ => rfl

theorem agreeOn_append : AgreeOn t t' (ls ++ ms) ↔ AgreeOn t t' ls ∧ AgreeOn t t' ms := by
  unfold AgreeOn
  constructor
  · intro h
    exact ⟨fun base member hmem => h base member (List.mem_append_left ms hmem),
      fun base member hmem => h base member (List.mem_append_right ls hmem)⟩
  · rintro ⟨hls, hms⟩ base member hmem
    rcases List.mem_append.mp hmem with hmem | hmem
    · exact hls base member hmem
    · exact hms base member hmem

theorem AgreeOn.left (h : AgreeOn t t' (ls ++ ms)) : AgreeOn t t' ls :=
  (agreeOn_append.mp h).1

theorem AgreeOn.right (h : AgreeOn t t' (ls ++ ms)) : AgreeOn t t' ms :=
  (agreeOn_append.mp h).2

/-- Any landmark in front of others. -/
theorem AgreeOn.tail {l : Landmark} (h : AgreeOn t t' (l :: ls)) : AgreeOn t t' ls :=
  fun base member hmem => h base member (List.mem_cons_of_mem l hmem)

/-- What stands before the dot of a selector, if that is more than an identifier. -/
theorem AgreeOn.base {x : Expr} {sel : Ident} (h : AgreeOn t t' (ExprKind.selector x sel).landmarks) :
    AgreeOn t t' x.landmarks := by
  rw [ExprKind.landmarks_selector] at h
  cases hbare : x.bareName? with
  | none => rwa [hbare] at h
  | some base =>
    rw [Expr.landmarks_of_bareName hbare]
    rintro _ _ ⟨⟩

/-- An entry without parentheses is no part of a list. -/
theorem AgreeOn.specs {tok : DeclToken} {pos : Pos} {grouped : Bool} {specs : List Spec}
    (h : AgreeOn t t' (GenDecl.mk tok pos grouped specs).landmarks) : AgreeOn t t' (Spec.listLandmarks specs) := by
  rw [GenDecl.landmarks.eq_def] at h
  split at h
  · rename_i x heq
    cases heq
    rwa [Spec.listLandmarks, Spec.listLandmarks, List.append_nil]
  · rename_i heq
    cases heq
    exact h.tail

end

section
variable {t t' : SymbolTable} {l l' : Nat} (hl : l ≤ l') (g : Pos → Pos)

theorem BasicLit.carries_synth {same : Prop} (x : BasicLit) (pos : Pos) :
    Carries same g id (x.synth pos) (x.synth (g pos)) := by
  obtain ⟨kind, value⟩ := x
  cases kind with
  | int =>
    unfold BasicLit.synth
    dsimp only
    split <;> exact .pure rfl
  | imag => exact .unsupported _ _
  | _ => exact .pure rfl

theorem Expr.bareName?_moved (x : Expr) : (x.moved g).bareName? = x.bareName? := by
  obtain ⟨k, p⟩ := x
  cases k <;> rfl

theorem AgreeOn.qualifier?_moved {x : Expr} {sel : Ident} (h : AgreeOn t t' (ExprKind.selector x sel).landmarks) :
    (⟨t', l'⟩ : Scope).qualifier? (x.moved g) = (⟨t, l⟩ : Scope).qualifier? x := by
  rw [Scope.qualifier?_eq, Scope.qualifier?_eq, Expr.bareName?_moved]
  rw [ExprKind.landmarks_selector] at h
  cases hbare : x.bareName? with
  | none => rfl
  | some base =>
    rw [hbare] at h
    exact (h base sel.name List.mem_cons_self).symm

theorem nameChain_moved (ns : List Ident) : nameChain (ns.map (Ident.moved g)) = nameChain ns := by
  rw [nameChain, List.map_map]
  rfl

/-- The dots of an array length are dots wherever they stand. -/
theorem Expr.moved_eq_dots {n : Expr} {p : Pos} (h : n.moved g = .mk (.ellipsis none) p) :
    ∃ q, n = .mk (.ellipsis none) q := by
  obtain ⟨k, q⟩ := n
  cases k with
  | ellipsis t =>
    cases t with
    | none => exact ⟨q, rfl⟩
    | some t => cases h
  | _ => cases h

/-! ## Expressions, statements and declarations -/

-- some rules need the hypothesis only for the rules that they call
include hl
set_option linter.unusedSectionVars false

mutual

theorem Expr.carries_synth : ∀ x : Expr, AgreeOn t t' x.landmarks →
    Carries (l = l') g id (x.synth ⟨t, l⟩) ((x.moved g).synth ⟨t', l'⟩)
  | .mk k p, h => (ExprKind.carries_synth p k h).nested hl
termination_by structural x => x

theorem ExprKind.carries_synth (pos : Pos) : ∀ k : ExprKind, AgreeOn t t' k.landmarks →
    Carries (l = l') g id (k.synth ⟨t, l⟩ pos) ((k.moved g).synth ⟨t', l'⟩ (g pos))
  | .bad _, _ => .unsupported _ _
  | .ident _, _ => .pure rfl
  | .ellipsis none, _ => .pure rfl
  | .ellipsis (some x), h => (Expr.carries_synth x h).map _
  | .basicLit x, _ => x.carries_synth g pos
  | .funcLit f b, h => (FuncType.carries_signature f h.left).bind fun _ => (Block.carries_synth b h.right).map _
  | .compositeLit none es, h => carries_pure_bind _ ((Expr.carries_synthList es h.right.tail).map _)
  | .compositeLit (some x) es, h =>
    (Expr.carries_synth x h.left).bind fun _ => (Expr.carries_synthList es h.right.tail).map _
  | .paren x, h => (Expr.carries_synth x h).map _
  | .selector x sel, h => by
    have hx := Expr.carries_synth x h.base
    change Carries _ g id _ (ExprKind.synth _ _ (.selector (x.moved g) _))
    rw [ExprKind.synth_selector, ExprKind.synth_selector, h.qualifier?_moved g]
    cases (⟨t, l⟩ : Scope).qualifier? x with
    | some path => exact .pure rfl
    | none => exact hx.map _
  | .index x i, h => (Expr.carries_synth i h.right).bind fun _ => (Expr.carries_synth x h.left).map _
  | .slice x low high _ false, h =>
    (Expr.carries_synthSlot low h.right.left).bind fun _ =>
      (Expr.carries_synthSlot high h.right.right.left).bind fun _ =>
        carries_pure_bind _ ((Expr.carries_synth x h.left).map _)
  | .slice x low high max true, h =>
    (Expr.carries_synthSlot low h.right.left).bind fun _ =>
      (Expr.carries_synthSlot high h.right.right.left).bind fun _ =>
        (Expr.carries_synthSlot max h.right.right.right).bind fun _ =>
          carries_pure_bind _ ((Expr.carries_synth x h.left).map _)
  | .typeAssert x none, h => carries_pure_bind _ ((Expr.carries_synth x h.left).map _)
  | .typeAssert x (some y), h => (Expr.carries_synth y h.right).bind fun _ => (Expr.carries_synth x h.left).map _
  | .call f as _, h => (Expr.carries_synthList as h.right.tail).bind fun _ => (Expr.carries_synth f h.left).map _
  | .star x, h => (Expr.carries_synth x h).map _
  | .unary _ x, h => (Expr.carries_synth x h).map _
  | .binary x _ y, h => (Expr.carries_synth x h.left).bind fun _ => (Expr.carries_synth y h.right).map _
  | .keyValue k v, h => (Expr.carries_synth k h.left).bind fun _ => (Expr.carries_synth v h.right).map _
  | .arrayType none x, h => (Expr.carries_synth x h).map _
  | .arrayType (some n) x, h => by
    have hn := Expr.carries_synth n h.left
    have hx := Expr.carries_synth x h.right
    by_cases hdots : ∃ p, n = .mk (.ellipsis none) p
    · obtain ⟨p, rfl⟩ := hdots
      exact hx.map _
    · have hdots' : ¬∃ p, n.moved g = .mk (.ellipsis none) p := fun ⟨_, hp⟩ => hdots (Expr.moved_eq_dots g hp)
      change Carries _ g id _ (ExprKind.synth _ _ (.arrayType (some (n.moved g)) (x.moved g)))
      rw [ExprKind.synth_arrayType _ _ hdots, ExprKind.synth_arrayType _ _ hdots']
      exact hn.bind fun _ => hx.map _
  | .structType fs, h => (Field.carries_synthList fs h.tail).map _
  | .funcType f, h => (FuncType.carries_signature f h).map _
  | .interfaceType ms, h => (Field.carries_synthElements ms h.tail).map _
  | .mapType k v, h => (Expr.carries_synth k h.left).bind fun _ => (Expr.carries_synth v h.right).map _
  | .chanType _ v, h => (Expr.carries_synth v h).map _
termination_by structural k => k

theorem Expr.carries_synthList : ∀ xs : List Expr, AgreeOn t t' (Expr.listLandmarks xs) →
    Carries (l = l') g id (Expr.synthList ⟨t, l⟩ xs) (Expr.synthList ⟨t', l'⟩ (Expr.movedList g xs))
  | [], _ => .pure rfl
  | x :: xs, h => (Expr.carries_synth x h.left).bind fun _ => (Expr.carries_synthList xs h.right).map _
termination_by structural xs => xs

theorem Expr.carries_synthSlot : ∀ x : Option Expr, AgreeOn t t' (Expr.optionLandmarks x) →
    Carries (l = l') g id (Expr.synthSlot ⟨t, l⟩ x) (Expr.synthSlot ⟨t', l'⟩ (Expr.movedOption g x))
  | none, _ => .pure rfl
  | some x, h => Expr.carries_synth x h
termination_by structural x => x

theorem Expr.carries_synthPresent : ∀ x : Option Expr, AgreeOn t t' (Expr.optionLandmarks x) →
    Carries (l = l') g id (Expr.synthPresent ⟨t, l⟩ x) (Expr.synthPresent ⟨t', l'⟩ (Expr.movedOption g x))
  | none, _ => .pure rfl
  | some x, h => (Expr.carries_synth x h).map _
termination_by structural x => x

theorem FuncType.carries_signature : ∀ f : FuncType, AgreeOn t t' f.landmarks →
    Carries (l = l') g id (f.signature ⟨t, l⟩) ((f.moved g).signature ⟨t', l'⟩)
  | .mk ps none, h => (Field.carries_synthList ps h.tail).map _
  | .mk ps (some [.mk [] x _]), h =>
    (Field.carries_synthList ps h.left.tail).bind fun _ => (Expr.carries_synth x h.right).map _
  | .mk ps (some []), h =>
    (Field.carries_synthList ps h.left.tail).bind fun _ => (Field.carries_synthList [] h.right.tail).map _
  | .mk ps (some (.mk (n :: ns) x tag :: rs)), h =>
    (Field.carries_synthList ps h.left.tail).bind fun _ =>
      (Field.carries_synthList (.mk (n :: ns) x tag :: rs) h.right.tail).map _
  | .mk ps (some (.mk [] x tag :: f :: rs)), h =>
    (Field.carries_synthList ps h.left.tail).bind fun _ =>
      (Field.carries_synthList (.mk [] x tag :: f :: rs) h.right.tail).map _
termination_by structural f => f

theorem Field.carries_synth : ∀ f : Field, AgreeOn t t' f.landmarks →
    Carries (l = l') g id (f.synth ⟨t, l⟩) ((f.moved g).synth ⟨t', l'⟩)
  | .mk ns x none, h => (Expr.carries_synth x h).bind fun _ => .pure (by rw [nameChain_moved])
  | .mk ns x (some _), h => (Expr.carries_synth x h).bind fun _ => .pure (by rw [nameChain_moved])
termination_by structural f => f

theorem Field.carries_synthList : ∀ fs : List Field, AgreeOn t t' (Field.listLandmarks fs) →
    Carries (l = l') g id (Field.synthList ⟨t, l⟩ fs) (Field.synthList ⟨t', l'⟩ (Field.movedList g fs))
  | [], _ => .pure rfl
  | f :: fs, h => (Field.carries_synth f h.left).bind fun _ => (Field.carries_synthList fs h.right).map _
termination_by structural fs => fs

theorem Field.carries_synthElements : ∀ fs : List Field, AgreeOn t t' (Field.listLandmarks fs) →
    Carries (l = l') g id (Field.synthElements ⟨t, l⟩ fs) (Field.synthElements ⟨t', l'⟩ (Field.movedList g fs))
  | [], _ => .pure rfl
  | .mk [] x _ :: fs, h => (Expr.carries_synth x h.left).bind fun _ => (Field.carries_synthElements fs h.right).map _
  | .mk [n] (.mk k p) tag :: fs, h => by
    have hfs := Field.carries_synthElements fs h.right
    cases k with
    | funcType f => exact (FuncType.carries_signature f h.left).bind fun _ => hfs.map _
    | _ => exact .unsupported _ _
  | .mk (_ :: _ :: _) (.mk _ _) _ :: _, _ => .unsupported _ _
termination_by structural fs => fs

theorem Block.carries_synth : ∀ b : Block, AgreeOn t t' b.landmarks →
    Carries (l = l') g id (b.synth ⟨t, l⟩) ((b.moved g).synth ⟨t', l'⟩)
  | .mk ss _, h => (Stmt.carries_synthList ss h.tail).map _
termination_by structural b => b

theorem Stmt.carries_synth : ∀ x : Stmt, AgreeOn t t' x.landmarks →
    Carries (l = l') g id (x.synth ⟨t, l⟩) ((x.moved g).synth ⟨t', l'⟩)
  | .mk k p, h => (StmtKind.carries_synth p k h).nested hl
termination_by structural x => x

theorem Stmt.carries_synthList : ∀ ss : List Stmt, AgreeOn t t' (Stmt.listLandmarks ss) →
    Carries (l = l') g id (Stmt.synthList ⟨t, l⟩ ss) (Stmt.synthList ⟨t', l'⟩ (Stmt.movedList g ss))
  | [], _ => .pure rfl
  | x :: xs, h => (Stmt.carries_synth x h.left).bind fun _ => (Stmt.carries_synthList xs h.right).map _
termination_by structural ss => ss

theorem Stmt.carries_synthSlot : ∀ x : Option Stmt, AgreeOn t t' (Stmt.optionLandmarks x) →
    Carries (l = l') g id (Stmt.synthSlot ⟨t, l⟩ x) (Stmt.synthSlot ⟨t', l'⟩ (Stmt.movedOption g x))
  | none, _ => .pure rfl
  | some x, h => Stmt.carries_synth x h
termination_by structural x => x

theorem Stmt.carries_synthInit : ∀ x : Option Stmt, AgreeOn t t' (Stmt.optionLandmarks x) →
    Carries (l = l') g id (Stmt.synthInit ⟨t, l⟩ x) (Stmt.synthInit ⟨t', l'⟩ (Stmt.movedOption g x))
  | none, _ => .pure rfl
  | some x, h => (Stmt.carries_synth x h).map _
termination_by structural x => x

theorem StmtKind.carries_synth (pos : Pos) : ∀ k : StmtKind, AgreeOn t t' k.landmarks →
    Carries (l = l') g id (k.synth ⟨t, l⟩ pos) ((k.moved g).synth ⟨t', l'⟩ (g pos))
  | .bad _, _ => .unsupported _ _
  | .decl d, h => GenDecl.carries_synth d h
  | .empty, _ => .pure rfl
  | .labeled _ x, h => (Stmt.carries_synth x h).map _
  | .expr x, h => Expr.carries_synth x h
  | .send c v, h => (Expr.carries_synth c h.left).bind fun _ => (Expr.carries_synth v h.right).map _
  | .incDec x _, h => (Expr.carries_synth x h).map _
  | .assign lhs _ rhs, h =>
    (Expr.carries_synthList lhs h.left).bind fun _ => (Expr.carries_synthList rhs h.right).map _
  | .goStmt c, h => (Expr.carries_synth c h).map _
  | .deferStmt c, h => (Expr.carries_synth c h).map _
  | .returnStmt rs, h => (Expr.carries_synthList rs h).map _
  | .branch _ none, _ => .pure rfl
  | .branch _ (some _), _ => .pure rfl
  | .block b, h => Block.carries_synth b h
  | .ifStmt i c b none, h =>
    (Stmt.carries_synthInit i h.left.left.left).bind fun _ => (Expr.carries_synth c h.left.left.right).bind fun _ =>
      (Block.carries_synth b h.left.right).map _
  | .ifStmt i c b (some e), h =>
    (Stmt.carries_synthInit i h.left.left.left).bind fun _ => (Expr.carries_synth c h.left.left.right).bind fun _ =>
      (Block.carries_synth b h.left.right).bind fun _ => (Stmt.carries_synth e h.right).map _
  | .caseClause [] b, h => carries_pure_bind _ ((Stmt.carries_synthList b h.tail).map _)
  | .caseClause (x :: xs) b, h =>
    (Expr.carries_synth x h.left.tail.left).bind fun _ => (Expr.carries_synthList xs h.left.tail.right).bind fun _ =>
      carries_pure_bind _ ((Stmt.carries_synthList b h.right.tail).map _)
  | .switchStmt i none b, h =>
    (Stmt.carries_synthInit i h.left.left).bind fun _ => carries_pure_bind _ ((Block.carries_synth b h.right).map _)
  | .switchStmt i (some x) b, h =>
    (Stmt.carries_synthInit i h.left.left).bind fun _ => (Expr.carries_synth x h.left.right).bind fun _ =>
      carries_pure_bind _ ((Block.carries_synth b h.right).map _)
  | .typeSwitch i a b, h =>
    (Stmt.carries_synthInit i h.left.left).bind fun _ => (Stmt.carries_synth a h.left.right).bind fun _ =>
      (Block.carries_synth b h.right).map _
  | .commClause none b, h => carries_pure_bind _ ((Stmt.carries_synthList b h.tail).map _)
  | .commClause (some c) b, h =>
    (Stmt.carries_synth c h.left.tail).bind fun _ =>
      carries_pure_bind _ ((Stmt.carries_synthList b h.right.tail).map _)
  | .selectStmt b, h => (Block.carries_synth b h).map _
  | .forStmt none none none b, h => carries_pure_bind _ ((Block.carries_synth b h.right).map _)
  | .forStmt none (some c) none b, h =>
    (Expr.carries_synth c h.left.right.left).bind fun _ =>
      carries_pure_bind _ ((Block.carries_synth b h.right).map _)
  | .forStmt none c (some p) b, h =>
    (Stmt.carries_synthSlot none h.left.left).bind fun _ => (Expr.carries_synthSlot c h.left.right.left).bind fun _ =>
      (Stmt.carries_synthSlot (some p) h.left.right.right).bind fun _ => (Block.carries_synth b h.right).map _
  | .forStmt (some i) c p b, h =>
    (Stmt.carries_synthSlot (some i) h.left.left).bind fun _ =>
      (Expr.carries_synthSlot c h.left.right.left).bind fun _ =>
        (Stmt.carries_synthSlot p h.left.right.right).bind fun _ => (Block.carries_synth b h.right).map _
  | .rangeStmt _ _ none x b, h =>
    (Expr.carries_synth x h.left).bind fun _ => carries_pure_bind _ ((Block.carries_synth b h.right).map _)
  | .rangeStmt k v (some _) x b, h =>
    (Expr.carries_synth x h.left.right).bind fun _ => (Expr.carries_synthPresent k h.left.left.left).bind fun _ =>
      (Expr.carries_synthPresent v h.left.left.right).bind fun _ =>
        carries_pure_bind _ ((Block.carries_synth b h.right).map _)
termination_by structural k => k

theorem GenDecl.carries_synth : ∀ d : GenDecl, AgreeOn t t' d.landmarks →
    Carries (l = l') g id (d.synth ⟨t, l⟩) ((d.moved g).synth ⟨t', l'⟩)
  | .mk tok pos grouped specs, h => by
    have hspecs := Spec.carries_synthList pos specs h.specs
    refine Carries.nested hl ?_
    cases tok with
    | importTok => exact .unsupported _ _
    | _ => exact carries_pure_bind _ (hspecs.bind fun _ => by split <;> exact .pure rfl)
termination_by structural d => d

theorem Spec.carries_synth (pos : Pos) : ∀ x : Spec, AgreeOn t t' x.landmarks →
    Carries (l = l') g id (x.synth ⟨t, l⟩ pos) ((x.moved g).synth ⟨t', l'⟩ (g pos))
  | .imported _, _ => .unsupported _ _
  | .value _ none [], _ => carries_pure_bind _ (.pure (by rw [nameChain_moved]))
  | .value _ (some x) [], h => (Expr.carries_synth x h.left.tail).bind fun _ => .pure (by rw [nameChain_moved])
  | .value _ none (v :: vs), h =>
    carries_pure_bind _ ((Expr.carries_synth v h.right.left).bind fun _ =>
      (Expr.carries_synthList vs h.right.right).bind fun _ => .pure (by rw [nameChain_moved]))
  | .value _ (some x) (v :: vs), h =>
    (Expr.carries_synth x h.left.tail).bind fun _ => (Expr.carries_synth v h.right.left).bind fun _ =>
      (Expr.carries_synthList vs h.right.right).bind fun _ => .pure (by rw [nameChain_moved])
  | .type _ _ x, h => (Expr.carries_synth x h).map _
termination_by structural x => x

theorem Spec.carries_synthList (pos : Pos) : ∀ xs : List Spec, AgreeOn t t' (Spec.listLandmarks xs) →
    Carries (l = l') g id (Spec.synthList ⟨t, l⟩ pos xs) (Spec.synthList ⟨t', l'⟩ (g pos) (Spec.movedList g xs))
  | [], _ => .pure rfl
  | x :: xs, h => (Spec.carries_synth pos x h.left).bind fun _ => (Spec.carries_synthList pos xs h.right).map _
termination_by structural xs => xs

end

theorem FuncDecl.carries_synth : ∀ d : FuncDecl, AgreeOn t t' d.landmarks →
    Carries (l = l') g id (d.synth ⟨t, l⟩) ((d.moved g).synth ⟨t', l'⟩)
  | ⟨none, _, f, none, _⟩, h => .nested hl <| carries_pure_bind _ <|
    (f.carries_signature hl g h.left.right).bind fun _ => .pure rfl
  | ⟨none, _, f, some b, _⟩, h => .nested hl <| carries_pure_bind _ <|
    (f.carries_signature hl g h.left.right).bind fun _ => (b.carries_synth hl g h.right).map _
  | ⟨some fs, _, f, none, _⟩, h => .nested hl <| (Field.carries_synthList hl g fs h.left.left.tail).bind fun _ =>
    (f.carries_signature hl g h.left.right).bind fun _ => .pure rfl
  | ⟨some fs, _, f, some b, _⟩, h => .nested hl <| (Field.carries_synthList hl g fs h.left.left.tail).bind fun _ =>
    (f.carries_signature hl g h.left.right).bind fun _ => (b.carries_synth hl g h.right).map _

/-! ## Generators -/

/-- A declaration that stands elsewhere has the same chain, under whatever name. -/
theorem Decl.carries_chain (d : Decl) (h : AgreeOn t t' d.landmarks) :
    Carries (l = l') g (Option.map Generator.chain) (d.synth ⟨t, l⟩) ((d.moved g).synth ⟨t', l'⟩) := by
  cases d with
  | gen d =>
    obtain ⟨tok, pos, grouped, specs⟩ := d
    cases tok with
    | importTok => exact .pure rfl
    | _ => exact (GenDecl.carries_synth hl g (.mk _ pos grouped specs) h).bind fun _ => .pure rfl
  | func d => exact (d.carries_synth hl g h).bind fun _ => .pure rfl

/-- A declaration has one generator, whatever the limit. -/
theorem Decl.carries_synth (d : Decl) (h : AgreeOn t t' d.landmarks) :
    Carries (l = l') id id (d.synth ⟨t, l⟩) (d.synth ⟨t', l'⟩) := by
  cases d with
  | gen d =>
    obtain ⟨tok, pos, grouped, specs⟩ := d
    cases tok with
    | importTok => exact .pure rfl
    | _ =>
      have hd := GenDecl.carries_synth hl id (.mk _ pos grouped specs) h
      rw [GenDecl.moved_id] at hd
      exact hd.map _
  | func d =>
    have hd := d.carries_synth hl id h
    rw [FuncDecl.moved_id] at hd
    exact hd.map _

/-- A request reads a table only where a selector has an identifier alone before its dot. -/
theorem Request.carries_run (r : Request) (h : AgreeOn t t' r.landmarks) :
    Carries (l = l') id id (r.run ⟨t, l⟩) (r.run ⟨t', l'⟩) := by
  cases r with
  | expr x | type x =>
    have hx := x.carries_synth hl id h
    rw [Expr.moved_id] at hx
    exact hx.map _
  | exprs xs =>
    have hxs := Expr.carries_synthList hl id xs h
    rw [Expr.movedList_id] at hxs
    exact hxs.map _
  | listed xs =>
    have hxs := Expr.carries_synthList hl id xs h
    rw [Expr.movedList_id] at hxs
    exact Carries.map (hxs.map _) _
  | signature f =>
    have hf := f.carries_signature hl id h
    rw [FuncType.moved_id] at hf
    exact hf.map _
  | stmt x =>
    have hx := x.carries_synth hl id h
    rw [Stmt.moved_id] at hx
    exact hx.map _
  | block b =>
    have hb := b.carries_synth hl id h
    rw [Block.moved_id] at hb
    exact hb.map _
  | gen d =>
    have hd := d.carries_synth hl id h
    rw [GenDecl.moved_id] at hd
    exact hd.map _
  | func d =>
    have hd := d.carries_synth hl id h
    rw [FuncDecl.moved_id] at hd
    exact hd.map _
  | decl d => exact (d.carries_synth hl h).map _

end

end GoRebuild
