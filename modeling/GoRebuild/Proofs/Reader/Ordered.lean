import GoRebuild.Proofs.Grammar.Ordered
import GoRebuild.Proofs.Reader.Shaped
import GoRebuild.Proofs.Tree.Ordered

/-!
# Derivations in order are read to trees in order

* `Node.read_ordered`, `Stmt.read_ordered`, `Decl.read_ordered`, `Func.read_ordered` : the tree of a derivation in order is
  in order, and starts where the derivation does. The nodes that stand for nothing written, such as the assignment of a
  type switch, start where something written does;
* `readItems_ordered` : so are the declarations of a source;
* `File.ofParts_ordered` : the file of items in order is in order.
-/

namespace GoRebuild

/-! ## Lists by their first entry, which starts at a known position -/

section
variable {real : Pos → Prop} {lo : Nat} {p : Pos}

theorem Expr.allOrdered_cons {x : Expr} {xs : List Expr} (hx : x.Ordered real lo ∧ x.pos = p)
    (hxs : Expr.AllOrdered real (p.offset.toNat + 1) xs) : Expr.AllOrdered real lo (x :: xs) := by
  obtain ⟨hx, rfl⟩ := hx
  exact ⟨hx, hxs⟩

theorem Stmt.allOrdered_cons {x : Stmt} {xs : List Stmt} (hx : x.Ordered real lo ∧ x.pos = p)
    (hxs : Stmt.AllOrdered real (p.offset.toNat + 1) xs) : Stmt.AllOrdered real lo (x :: xs) := by
  obtain ⟨hx, rfl⟩ := hx
  exact ⟨hx, hxs⟩

theorem Spec.allOrdered_cons {x : Spec} {xs : List Spec} (hx : x.Ordered real lo ∧ x.start = p)
    (hxs : Spec.AllOrdered real (p.offset.toNat + 1) xs) : Spec.AllOrdered real lo (x :: xs) := by
  obtain ⟨hx, rfl⟩ := hx
  exact ⟨hx, hxs⟩

/-- A field without names starts at its type. -/
theorem Field.allOrdered_cons {t : Expr} {tag : Option BasicLit} {fs : List Field} (ht : t.Ordered real lo ∧ t.pos = p)
    (hfs : Field.AllOrdered real (p.offset.toNat + 1) fs) : Field.AllOrdered real lo (.mk [] t tag :: fs) := by
  obtain ⟨ht, rfl⟩ := ht
  exact ⟨ht, hfs⟩

theorem Expr.ordered_head? {xs : List Expr} (h : Expr.AllOrdered real lo xs) : Expr.OptionOrdered real lo xs.head? := by
  cases xs with
  | nil => trivial
  | cons x xs => exact h.1

end

namespace Grammar
open Lexical (Place)
open Reading

variable (s : Setting) {real : Pos → Prop}

theorem idents_ordered : ∀ {lo : Nat} (ns : List Name), Name.AllOrdered real s.pos lo ns →
    Ident.AllOrdered real lo (ns.map (Name.ident s))
  | _, [], _ => trivial
  | _, _ :: ns, h => ⟨h.1, idents_ordered ns h.2⟩

/-! ## Expressions, statements and declarations -/

mutual

theorem Node.read_ordered : ∀ {lo : Nat} (x : Node), x.Ordered real s.pos lo →
    Gives (x.read s) fun e => e.Ordered real lo ∧ e.pos = s.pos x.start
  | _, .mk k p, h => .visit s p (.bind (k.read_ordered p h.1.2 h.2) fun _ hk => .pure ⟨⟨h.1, hk⟩, rfl⟩)
termination_by structural _ x => x

theorem NodeKind.read_ordered (start : Place) (hstart : real (s.pos start)) :
    ∀ k : NodeKind, k.Ordered real s.pos (s.pos start).offset.toNat →
      Gives (k.read s start) fun k' => k'.Ordered real (s.pos start).offset.toNat
  | .name _, _ => .pure trivial
  | .literal _, _ => .pure trivial
  | .paren x, h => .bind (x.read_ordered h) fun _ hx => .pure hx.1
  | .select x _, h => .bind (x.read_ordered h.1) fun _ hx => .pure ⟨hx.1, h.2⟩
  | .index x y, h =>
    .bind (x.read_ordered h.1) fun _ hx => .bind (y.read_ordered h.2) fun _ hy => .pure ⟨hx.1, hy.1⟩
  | .slice x low high, h =>
    .bind (x.read_ordered h.1) fun _ hx => .bind (readOption_ordered low h.2.1) fun _ hlow =>
      .bind (readOption_ordered high h.2.2) fun _ hhigh => .pure ⟨hx.1, hlow, hhigh, trivial⟩
  | .slice3 x low high max, h =>
    .bind (x.read_ordered h.1) fun _ hx => .bind (readOption_ordered low h.2.1) fun _ hlow =>
      .bind (high.read_ordered h.2.2.1) fun _ hhigh => .bind (max.read_ordered h.2.2.2) fun _ hmax =>
        .pure ⟨hx.1, hlow, hhigh.1, hmax.1⟩
  | .assert x t, h =>
    .bind (x.read_ordered h.1) fun _ hx => .bind (t.read_ordered h.2) fun _ ht => .pure ⟨hx.1, ht.1⟩
  | .call f as, h =>
    .bind (readArgs_ordered as h.2) fun _ has => .bind (f.read_ordered h.1) fun _ hf => .pure ⟨hf.1, has⟩
  | .convert t x, h =>
    .bind (t.read_ordered h.1) fun _ ht => .bind (x.read_ordered h.2) fun _ hx => .pure ⟨ht.1, hx.1, trivial⟩
  | .star x, h => .bind (x.read_ordered h) fun _ hx => .pure hx.1
  | .unary _ x, h => .bind (x.read_ordered h) fun _ hx => .pure hx.1
  | .binary x _ y, h =>
    .bind (x.read_ordered h.1) fun _ hx => .bind (y.read_ordered h.2) fun _ hy => .pure ⟨hx.1, hy.1⟩
  | .composite t es, h =>
    .bind (t.read_ordered h.1) fun _ ht => .bind (readAll_ordered es h.2) fun _ hes => .pure ⟨ht.1, hes⟩
  | .braces es, h => .bind (readAll_ordered es h) fun _ hes => .pure ⟨trivial, hes⟩
  | .keyed k v, h =>
    .bind (k.read_ordered h.1) fun _ hk => .bind (v.read_ordered h.2) fun _ hv => .pure ⟨hk.1, hv.1⟩
  | .func t b, h => .bind (t.read_ordered h.1) fun _ ht => .bind (b.read_ordered h.2) fun _ hb => .pure ⟨ht, hb⟩
  | .array n t, h =>
    .bind (n.read_ordered h.1) fun _ hn => .bind (t.read_ordered h.2) fun _ ht => .pure ⟨hn.1, ht.1⟩
  | .openArray t, h => .bind (t.read_ordered h) fun _ ht => .pure ⟨⟨⟨Nat.le_refl _, hstart⟩, trivial⟩, ht.1⟩
  | .sliceOf t, h => .bind (t.read_ordered h) fun _ ht => .pure ⟨trivial, ht.1⟩
  | .struct ms, h => .bind (readMembers_ordered ms h) fun _ hms => .pure hms
  | .interface es, h => .bind (readElements_ordered es h) fun _ hes => .pure hes
  | .map k v, h =>
    .bind (k.read_ordered h.1) fun _ hk => .bind (v.read_ordered h.2) fun _ hv => .pure ⟨hk.1, hv.1⟩
  | .chan _ v, h => .bind (v.read_ordered h) fun _ hv => .pure hv.1
  | .funcType t, h => .bind (t.read_ordered h) fun _ ht => .pure ht
  | .generic form bracket, _ => .refuse s _ (form.place start bracket)
termination_by structural k => k

theorem readOption_ordered : ∀ {lo : Nat} (x : Option Node), Node.OptionOrdered real s.pos lo x →
    Gives (readOption s x) fun e => Expr.OptionOrdered real lo e
  | _, none, _ => .pure trivial
  | _, some x, h => .bind (x.read_ordered h) fun _ hx => .pure hx.1
termination_by structural _ x => x

theorem readAll_ordered : ∀ {lo : Nat} (xs : List Node), Node.AllOrdered real s.pos lo xs →
    Gives (readAll s xs) (Expr.AllOrdered real lo)
  | _, [], _ => .pure trivial
  | _, x :: xs, h => .bind (x.read_ordered h.1) fun _ hx => .bind (readAll_ordered xs h.2) fun _ hs =>
    .pure (Expr.allOrdered_cons hx hs)
termination_by structural _ xs => xs

theorem readArgs_ordered : ∀ {lo : Nat} (as : List Arg), Arg.AllOrdered real s.pos lo as →
    Gives (readArgs s as) (Expr.AllOrdered real lo)
  | _, [], _ => .pure trivial
  | _, .plain x :: as, h => .bind (x.read_ordered h.1) fun _ hx => .bind (readArgs_ordered as h.2) fun _ hs =>
    .pure (Expr.allOrdered_cons hx hs)
  | _, .spread x :: as, h => .bind (x.read_ordered h.1) fun _ hx => .bind (readArgs_ordered as h.2) fun _ hs =>
    .pure (Expr.allOrdered_cons hx hs)
termination_by structural _ as => as

theorem Signature.read_ordered : ∀ {lo : Nat} (t : Signature), t.Ordered real s.pos lo →
    Gives (t.read s) fun t' => t'.Ordered real lo
  | _, .mk ps none, h => .bind (readParams_ordered ps h) fun _ hps => .pure hps
  | _, .mk ps (some rs), h => .bind (readParams_ordered ps h.1) fun _ hps =>
    .bind (readParams_ordered rs h.2) fun _ hrs => .pure ⟨hps, hrs⟩
termination_by structural _ t => t

/-- The type of a variadic parameter starts at its first name, or at its dots. -/
theorem readParams_ordered : ∀ {lo : Nat} (ps : List Param), Param.AllOrdered real s.pos lo ps →
    Gives (readParams s ps) (Field.AllOrdered real lo)
  | _, [], _ => .pure trivial
  | _, .mk [] none t :: ps, h => .bind (t.read_ordered h.1) fun _ ht => .bind (readParams_ordered ps h.2) fun _ hs =>
    .pure (Field.allOrdered_cons ht hs)
  | _, .mk (n :: ns) none t :: ps, h => .bind (t.read_ordered h.1.2) fun _ ht =>
    .bind (readParams_ordered ps h.2) fun _ hs => .pure ⟨⟨idents_ordered s (n :: ns) h.1.1, ht.1⟩, hs⟩
  | _, .mk [] (some _) t :: ps, h => .bind (t.read_ordered h.1.2) fun _ ht =>
    .bind (readParams_ordered ps h.2) fun _ hs => .pure ⟨⟨h.1.1, ht.1⟩, hs⟩
  | _, .mk (n :: ns) (some _) t :: ps, h => .bind (t.read_ordered h.1.2) fun _ ht =>
    .bind (readParams_ordered ps h.2) fun _ hs =>
      .pure ⟨⟨idents_ordered s (n :: ns) h.1.1, ⟨Nat.le_refl _, h.1.1.1.2⟩, ht.1⟩, hs⟩
termination_by structural _ ps => ps

/-- A pointer that is embedded starts at its star. -/
theorem readMembers_ordered : ∀ {lo : Nat} (ms : List Member), Member.AllOrdered real s.pos lo ms →
    Gives (readMembers s ms) (Field.AllOrdered real lo)
  | _, [], _ => .pure trivial
  | _, .named n more t _ :: ms, h => .bind (t.read_ordered h.1.2) fun _ ht =>
    .bind (readMembers_ordered ms h.2) fun _ hs => .pure ⟨⟨idents_ordered s (n :: more) h.1.1, ht.1⟩, hs⟩
  | _, .embedded none t _ :: ms, h => .bind (t.read_ordered h.1) fun _ ht =>
    .bind (readMembers_ordered ms h.2) fun _ hs => .pure (Field.allOrdered_cons ht hs)
  | _, .embedded (some _) t _ :: ms, h => .bind (t.read_ordered h.1.2) fun _ ht =>
    .bind (readMembers_ordered ms h.2) fun _ hs => .pure ⟨⟨h.1.1, ht.1⟩, hs⟩
termination_by structural _ ms => ms

/-- The type of a method starts at its name. -/
theorem readElements_ordered : ∀ {lo : Nat} (es : List Element), Element.AllOrdered real s.pos lo es →
    Gives (readElements s es) (Field.AllOrdered real lo)
  | _, [], _ => .pure trivial
  | _, .method _ t :: es, h => .bind (t.read_ordered h.1.2) fun _ ht =>
    .bind (readElements_ordered es h.2) fun _ hs =>
      .pure ⟨⟨⟨h.1.1, trivial⟩, ⟨Nat.le_refl _, h.1.1.2⟩, ht⟩, hs⟩
  | _, .embedded t :: es, h => .bind (t.read_ordered h.1) fun _ ht =>
    .bind (readElements_ordered es h.2) fun _ hs => .pure (Field.allOrdered_cons ht hs)
  | _, .union start :: _, _ => .refuse s _ start
termination_by structural _ es => es

theorem Block.read_ordered : ∀ {lo : Nat} (b : Block), b.Ordered real s.pos lo →
    Gives (b.read s) fun b' => b'.Ordered real lo
  | _, .mk ss _, h => .bind (readStmts_ordered ss h.2) fun _ hss => .pure ⟨h.1, hss⟩
termination_by structural _ b => b

theorem Stmt.read_ordered : ∀ {lo : Nat} (x : Stmt), x.Ordered real s.pos lo →
    Gives (x.read s) fun x' => x'.Ordered real lo ∧ x'.pos = s.pos x.start
  | _, .mk k p, h => .visit s p (.bind (k.read_ordered p h.1.2 h.2) fun _ hk => .pure ⟨⟨h.1, hk⟩, rfl⟩)
termination_by structural _ x => x

theorem readStmts_ordered : ∀ {lo : Nat} (ss : List Stmt), Stmt.AllOrdered real s.pos lo ss →
    Gives (readStmts s ss) (GoRebuild.Stmt.AllOrdered real lo)
  | _, [], _ => .pure trivial
  | _, x :: xs, h => .bind (x.read_ordered h.1) fun _ hx => .bind (readStmts_ordered xs h.2) fun _ hs =>
    .pure (GoRebuild.Stmt.allOrdered_cons hx hs)
termination_by structural _ ss => ss

theorem readStmt?_ordered : ∀ {lo : Nat} (x : Option Stmt), Stmt.OptionOrdered real s.pos lo x →
    Gives (readStmt? s x) (GoRebuild.Stmt.OptionOrdered real lo)
  | _, none, _ => .pure trivial
  | _, some x, h => .bind (x.read_ordered h) fun _ hx => .pure hx.1
termination_by structural _ x => x

/-- What a lone label stands before starts at the label, and what a type switch assigns at the first name, or at the
value that it is over. -/
theorem StmtKind.read_ordered (start : Place) (hstart : real (s.pos start)) :
    ∀ k : StmtKind, k.Ordered real s.pos (s.pos start).offset.toNat →
      Gives (k.read s start) fun k' => k'.Ordered real (s.pos start).offset.toNat
  | .decl d, h => .bind (d.read_ordered start hstart h) fun _ hd => .pure hd.1
  | .expr x, h => .bind (x.read_ordered h) fun _ hx => .pure hx.1
  | .send x y, h =>
    .bind (x.read_ordered h.1) fun _ hx => .bind (y.read_ordered h.2) fun _ hy => .pure ⟨hx.1, hy.1⟩
  | .step x _, h => .bind (x.read_ordered h) fun _ hx => .pure hx.1
  | .assign l _ r, h => .bind (readAll_ordered l h.1) fun _ hl => .bind (readAll_ordered r h.2) fun _ hr => .pure ⟨hl, hr⟩
  | .receive l _ y, h =>
    .bind (y.read_ordered h.2) fun _ hy => .bind (readAll_ordered l h.1) fun _ hl => .pure ⟨hl, hy.1, trivial⟩
  | .returnStmt rs, h => .bind (readAll_ordered rs h) fun _ hrs => .pure hrs
  | .goStmt x, h => .bind (x.read_ordered h) fun _ hx => .pure hx.1
  | .deferStmt x, h => .bind (x.read_ordered h) fun _ hx => .pure hx.1
  | .labeled _ none, h => .pure ⟨h.1, ⟨Nat.le_refl _, hstart⟩, trivial⟩
  | .labeled _ (some x), h => .bind (x.read_ordered h.2) fun _ hx => .pure ⟨h.1, hx.1⟩
  | .branch j, h => .pure (by
    cases hlabel : j.label with
    | none => trivial
    | some n => exact h n hlabel)
  | .block (.mk ss _), h => .bind (readStmts_ordered ss h) fun _ hss => .pure ⟨⟨Nat.le_refl _, hstart⟩, hss⟩
  | .empty, _ => .pure trivial
  | .conditional c, h => c.read_ordered h
  | .loop hd b, h => .bind (b.read_ordered h.2) fun _ hb => hd.read_ordered hb h.1
  | .switch i t cs, h =>
    .bind (readClauses_ordered cs h.2.2) fun _ hcs => .bind (readStmt?_ordered i h.1) fun _ hi =>
      .bind (readOption_ordered t h.2.1) fun _ ht => .pure ⟨hi, ht, ⟨Nat.le_refl _, hstart⟩, hcs⟩
  | .typeSwitch i [] x cs, h =>
    .bind (x.read_ordered h.2.1.self) fun _ hx => .bind (.any _) fun _ _ =>
      .bind (readClauses_ordered cs h.2.2) fun _ hcs => .bind (readStmt?_ordered i h.1) fun _ hi =>
        .pure ⟨hi, ⟨h.2.1.at, ⟨Nat.le_refl _, h.2.1.at.2⟩, hx.1, trivial⟩, ⟨Nat.le_refl _, hstart⟩, hcs⟩
  | .typeSwitch i (n :: ns) x cs, h =>
    .bind (x.read_ordered h.2.2.1.self) fun _ hx =>
      .bind (readAll_ordered (n :: ns) ⟨h.2.1.1.self, h.2.1.2⟩) fun _ hns =>
        .bind (readClauses_ordered cs h.2.2.2) fun _ hcs => .bind (readStmt?_ordered i h.1) fun _ hi =>
          .pure ⟨hi, ⟨h.2.1.1.at, hns, ⟨h.2.2.1.at, hx.1, trivial⟩, trivial⟩, ⟨Nat.le_refl _, hstart⟩, hcs⟩
  | .select cs, h => .bind (readCommClauses_ordered cs h) fun _ hcs => .pure ⟨⟨Nat.le_refl _, hstart⟩, hcs⟩
termination_by structural k => k

theorem Conditional.read_ordered : ∀ {lo : Nat} (c : Conditional), c.Ordered real s.pos lo →
    Gives (c.read s) fun k => k.Ordered real lo
  | _, .mk i c b e _, h =>
    .bind (readElse_ordered e h.2.2.2) fun _ he => .bind (readStmt?_ordered i h.1) fun _ hi =>
      .bind (c.read_ordered h.2.1) fun _ hc => .bind (b.read_ordered h.2.2.1) fun _ hb => .pure ⟨hi, hc.1, hb, he⟩
termination_by structural _ c => c

theorem readElse_ordered : ∀ {lo : Nat} (e : Option Else), Else.OptionOrdered real s.pos lo e →
    Gives (readElse s e) (GoRebuild.Stmt.OptionOrdered real lo)
  | _, none, _ => .pure trivial
  | _, some (.block (.mk ss p)), h => .visit s p (.bind (readStmts_ordered ss h.2) fun _ hss =>
    .pure ⟨h.1, ⟨Nat.le_refl _, h.1.2⟩, hss⟩)
  | _, some (.chain c), h => .visit s c.start (.bind (c.read_ordered h.2) fun _ hk => .pure ⟨h.1, hk⟩)
termination_by structural _ e => e

theorem LoopHeader.read_ordered {lo : Nat} {body : GoRebuild.Block} (hb : body.Ordered real lo) :
    ∀ h : LoopHeader, h.Ordered real s.pos lo → Gives (h.read s body) fun k => k.Ordered real lo
  | .forever, _ => .pure ⟨trivial, trivial, trivial, hb⟩
  | .while c, h => .bind (c.read_ordered h) fun _ hc => .pure ⟨trivial, hc.1, trivial, hb⟩
  | .steps i c p, h =>
    .bind (readStmt?_ordered i h.1) fun _ hi => .bind (readOption_ordered c h.2.1) fun _ hc =>
      .bind (readStmt?_ordered p h.2.2) fun _ hp => .pure ⟨hi, hc, hp, hb⟩
  | .over x, h => .bind (x.read_ordered h) fun _ hx => .pure ⟨trivial, trivial, hx.1, hb⟩
  | .assigning k more _ x, h =>
    .bind (k.read_ordered h.1) fun _ hk =>
      .bind (readAll_ordered more (Node.AllOrdered.mono h.2.1 (Nat.le_succ_of_le h.1.at.1))) fun _ hmore =>
        .bind (x.read_ordered h.2.2) fun _ hx => .pure ⟨hk.1, Expr.ordered_head? hmore, hx.1, hb⟩
termination_by structural h => h

theorem readClauses_ordered : ∀ {lo : Nat} (cs : List Clause), Clause.AllOrdered real s.pos lo cs →
    Gives (readClauses s cs) (GoRebuild.Stmt.AllOrdered real lo)
  | _, [], _ => .pure trivial
  | _, .case x xs b _ :: cs, h =>
    .bind (x.read_ordered h.1.2.1) fun _ hx => .bind (readAll_ordered xs h.1.2.2.1) fun _ hxs =>
      .bind (readStmts_ordered b h.1.2.2.2) fun _ hb => .bind (readClauses_ordered cs h.2) fun _ hs =>
        .pure ⟨⟨h.1.1, Expr.allOrdered_cons hx hxs, hb⟩, hs⟩
  | _, .otherwise b _ :: cs, h =>
    .bind (readStmts_ordered b h.1.2) fun _ hb => .bind (readClauses_ordered cs h.2) fun _ hs =>
      .pure ⟨⟨h.1.1, trivial, hb⟩, hs⟩
termination_by structural _ cs => cs

theorem readCommClauses_ordered : ∀ {lo : Nat} (cs : List CommClause), CommClause.AllOrdered real s.pos lo cs →
    Gives (readCommClauses s cs) (GoRebuild.Stmt.AllOrdered real lo)
  | _, [], _ => .pure trivial
  | _, .mk c b _ :: cs, h =>
    .bind (readStmt?_ordered c h.1.2.1) fun _ hc => .bind (readStmts_ordered b h.1.2.2) fun _ hb =>
      .bind (readCommClauses_ordered cs h.2) fun _ hs => .pure ⟨⟨h.1.1, hc, hb⟩, hs⟩
termination_by structural _ cs => cs

theorem Decl.read_ordered (start : Place) (hstart : real (s.pos start)) :
    ∀ d : Decl, d.Ordered real s.pos (s.pos start).offset.toNat →
      Gives (d.read s start) fun d' => d'.Ordered real (s.pos start).offset.toNat ∧ d'.pos = s.pos start
  | .value _ x _, h => .bind (x.read_ordered h) fun _ hx => .pure ⟨⟨⟨Nat.le_refl _, hstart⟩, hx.1, trivial⟩, rfl⟩
  | .values _ xs _, h => .bind (readValueSpecs_ordered xs h) fun _ hxs => .pure ⟨⟨⟨Nat.le_refl _, hstart⟩, hxs⟩, rfl⟩
  | .type x _, h => .bind (x.read_ordered h) fun _ hx => .pure ⟨⟨⟨Nat.le_refl _, hstart⟩, hx.1, trivial⟩, rfl⟩
  | .types xs _, h => .bind (readTypeSpecs_ordered xs h) fun _ hxs => .pure ⟨⟨⟨Nat.le_refl _, hstart⟩, hxs⟩, rfl⟩
termination_by structural d => d

theorem ValueSpec.read_ordered : ∀ {lo : Nat} (x : ValueSpec), x.Ordered real s.pos lo →
    Gives (x.read s) fun x' => x'.Ordered real lo ∧ x'.start = s.pos x.start
  | _, .mk n more t vs, h =>
    .bind (readOption_ordered t h.2.1) fun _ ht => .bind (readAll_ordered vs h.2.2) fun _ hvs =>
      .pure ⟨⟨idents_ordered s (n :: more) h.1, ht, hvs⟩, rfl⟩
termination_by structural _ x => x

theorem readValueSpecs_ordered : ∀ {lo : Nat} (xs : List ValueSpec), ValueSpec.AllOrdered real s.pos lo xs →
    Gives (readValueSpecs s xs) (Spec.AllOrdered real lo)
  | _, [], _ => .pure trivial
  | _, x :: xs, h => .bind (x.read_ordered h.1) fun _ hx => .bind (readValueSpecs_ordered xs h.2) fun _ hs =>
    .pure (Spec.allOrdered_cons hx hs)
termination_by structural _ xs => xs

theorem TypeSpec.read_ordered : ∀ {lo : Nat} (x : TypeSpec), x.Ordered real s.pos lo →
    Gives (x.read s) fun x' => x'.Ordered real lo ∧ x'.start = s.pos x.start
  | _, .mk _ (some params) _ _, _ => .refuse s _ params
  | _, .mk _ none _ t, h => .bind (t.read_ordered h.2) fun _ ht => .pure ⟨⟨h.1, ht.1⟩, rfl⟩
termination_by structural _ x => x

theorem readTypeSpecs_ordered : ∀ {lo : Nat} (xs : List TypeSpec), TypeSpec.AllOrdered real s.pos lo xs →
    Gives (readTypeSpecs s xs) (Spec.AllOrdered real lo)
  | _, [], _ => .pure trivial
  | _, x :: xs, h => .bind (x.read_ordered h.1) fun _ hx => .bind (readTypeSpecs_ordered xs h.2) fun _ hs =>
    .pure (Spec.allOrdered_cons hx hs)
termination_by structural _ xs => xs

end

end Grammar

/-! ## Entries at top level -/

/-- Declarations among entries in order, and package names at real positions. -/
def TopLevel.AllOrdered (real : Pos → Prop) : Nat → List TopLevel → Prop
  | _, [] => True
  | lo, package n :: ts => real n.pos ∧ AllOrdered real lo ts
  | lo, decl d :: ts => d.Ordered real lo ∧ AllOrdered real (d.pos.offset.toNat + 1) ts

namespace TopLevel.AllOrdered

variable {real : Pos → Prop}

theorem packages : ∀ {lo : Nat} {ts : List TopLevel}, AllOrdered real lo ts → ∀ n ∈ ts.filterMap package?, real n.pos
  | _, [], _ => nofun
  | _, package _ :: _, h => List.forall_mem_cons.mpr ⟨h.1, h.2.packages⟩
  | _, decl _ :: _, h => h.2.packages

theorem decls : ∀ {lo : Nat} {ts : List TopLevel}, AllOrdered real lo ts → Decl.AllOrdered real lo (ts.filterMap decl?)
  | _, [], _ => trivial
  | _, package _ :: _, h => h.2.decls
  | _, decl _ :: _, h => ⟨h.1, h.2.decls⟩

end TopLevel.AllOrdered

namespace Grammar
open Reading

variable (s : Setting) {real : Pos → Prop} {lo : Nat}

/-- What may be absent is read if it is there. -/
theorem gives_option {α β : Type} {act : α → Reading β} {Q : β → Prop} {x : Option α} (h : ∀ a ∈ x, Gives (act a) Q) :
    Gives (x.mapM act) fun y => ∀ b ∈ y, Q b := by
  cases x with
  | none => exact .pure nofun
  | some a =>
    refine .bind (h a rfl) fun b hb => ?_
    have hsome : ∀ c ∈ some b, Q c := fun c hc => Option.some.inj hc ▸ hb
    exact .pure hsome

theorem Func.read_ordered {f : Func} (h : f.Ordered real s.pos lo) :
    Gives (f.read s) fun d => d.Ordered real lo ∧ d.pos = s.pos f.start := by
  obtain ⟨recv, n, params, sig, body, start⟩ := f
  unfold Func.read
  cases params with
  | some p => exact .bind (Q := fun _ => False) (.refuse s _ p) fun _ h => h.elim
  | none =>
    have hrecv := gives_option fun ps hps => readParams_ordered s ps (h.recv ps hps)
    have hbody := gives_option fun b hb => Block.read_ordered s b (h.body b hb)
    exact .bind hrecv fun _ hrecv => .bind hbody fun _ hbody => .bind (sig.read_ordered s h.sig) fun _ hsig =>
      .pure ⟨⟨h.start, hrecv, h.name, hsig, hbody⟩, rfl⟩

theorem imported_ordered : ∀ {lo : Nat} (is : List Import), Import.AllOrdered real s.pos lo is →
    Spec.AllOrdered real lo (is.map fun i => .imported (i.read s))
  | _, [], _ => trivial
  | _, _ :: is, h => ⟨h.1, imported_ordered is h.2⟩

theorem readItems_ordered : ∀ {lo : Nat} (items : List Item), Item.AllOrdered real s.pos lo items →
    Gives (items.mapM fun i : Item => i.read s) (TopLevel.AllOrdered real lo)
  | _, [], _ => .pure trivial
  | _, i :: is, h => by
    rw [List.mapM_cons]
    -- where the next entry starts is known from the entry that is read
    cases i with
    | package n =>
      refine .bind (.pure rfl) fun t ht => .bind (readItems_ordered is h.2) fun ts hts => .pure ?_
      exact ht ▸ ⟨h.1, hts⟩
    | importOne i start =>
      refine .bind (.pure rfl) fun t ht => .bind (readItems_ordered is h.2.2) fun ts hts => .pure ?_
      exact ht ▸ ⟨⟨h.1, h.2.1, trivial⟩, hts⟩
    | imports specs start =>
      refine .bind (.pure rfl) fun t ht => .bind (readItems_ordered is h.2.2) fun ts hts => .pure ?_
      exact ht ▸ ⟨⟨h.1, imported_ordered s specs h.2.1⟩, hts⟩
    | func f =>
      have hread : Gives ((Item.func f).read s) fun t =>
          ∃ d : FuncDecl, t = .decl (.func d) ∧ d.Ordered real _ ∧ d.pos = s.pos f.start :=
        .bind (f.read_ordered s h.1) fun d hd => .pure ⟨d, rfl, hd⟩
      refine .bind hread fun t ht => .bind (readItems_ordered is h.2) fun ts hts => .pure ?_
      obtain ⟨d, rfl, hd, hpos⟩ := ht
      rw [← hpos] at hts
      exact ⟨hd, hts⟩
    | stmt x =>
      obtain ⟨k, start⟩ := x
      cases k with
      | decl d =>
        have hread : Gives ((Item.stmt (.mk (.decl d) start)).read s) fun t =>
            ∃ d' : GenDecl, t = .decl (.gen d') ∧ d'.Ordered real _ ∧ d'.pos = s.pos start :=
          .bind (d.read_ordered s start h.1.1.2 h.1.2) fun d' hd => .pure ⟨d', rfl, hd⟩
        refine .bind hread fun t ht => .bind (readItems_ordered is h.2) fun ts hts => .pure ?_
        obtain ⟨d', rfl, hd, hpos⟩ := ht
        rw [Stmt.start, ← hpos] at hts
        exact ⟨Decl.Ordered.mono (d := .gen d') hd h.1.1.1, hts⟩
      | _ => exact .bind (Q := fun _ => False) (.refuse s _ start) fun _ h => h.elim

end Grammar

/-! ## Files -/

theorem Spec.AllOrdered.imports {real : Pos → Prop} : ∀ {lo : Nat} (specs : List Spec), Spec.AllOrdered real lo specs →
    ∀ i ∈ specs.filterMap Spec.import?, real i.pos
  | _, [], _ => nofun
  | _, .imported _ :: specs, h => List.forall_mem_cons.mpr ⟨h.1.2, imports specs h.2⟩
  | _, .value _ _ _ :: specs, h => imports specs h.2
  | _, .type _ _ _ :: specs, h => imports specs h.2

theorem Decl.AllOrdered.imports {real : Pos → Prop} {lo : Nat} {ds : List Decl} (h : Decl.AllOrdered real lo ds) :
    ∀ i ∈ ds.flatMap Decl.imports, real i.pos := by
  induction ds generalizing lo with
  | nil => exact nofun
  | cons d ds ih =>
    rw [List.flatMap_cons]
    refine List.forall_mem_append.mpr ⟨?_, ih h.2⟩
    cases d with
    | gen d => obtain ⟨tok, p, grouped, specs⟩ := d; exact Spec.AllOrdered.imports specs h.1.2
    | func d => exact nofun

/-- A file of entries in order. -/
theorem File.ofParts_ordered {real : Pos → Prop} {parts : List TopLevel} {f : File}
    (hparts : TopLevel.AllOrdered real 0 parts) (h : File.ofParts parts = .ok f) : f.Ordered real := by
  have hdecls : Decl.AllOrdered real 0 f.decls := by
    rw [Grammar.decls_of_ofParts h]
    exact hparts.decls
  refine ⟨⟨Nat.zero_le _, ?_⟩, hdecls, fun i hi => ⟨Nat.zero_le _, ?_⟩⟩
  · unfold File.ofParts at h
    split at h
    · rename_i package hpackage
      cases h
      exact hparts.packages package (List.mem_of_getLast? hpackage)
    · cases h
  · rw [imports_of_ofParts h] at hi
    exact hdecls.imports i hi

end GoRebuild
