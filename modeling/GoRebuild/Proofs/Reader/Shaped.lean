import GoRebuild.Proofs.Reader.Complete
import GoRebuild.Proofs.Tree.Place

/-!
# Trees that were read are well shaped

* `Node.read_shaped`, `Stmt.read_shaped`, `Decl.read_shaped`, `Func.read_shaped`, `Item.read_shaped` : each construct of
  the grammar is read to a tree of the shape of `Expr.Shaped` in which each node stands in its place
  (`Expr.InPlace`);
* `readClauses_default`, `readCommClauses_default`, `Stmt.read_default` : a clause lacks cases exactly if its node is
  that of a `default`;
* `reading_well_shaped` : files that were read are `File.WellShaped`.
-/

namespace GoRebuild

theorem Expr.shaped_head? {xs : List Expr} (h : Expr.AllShaped xs) : Expr.OptionShaped xs.head? := by
  cases xs with
  | nil => trivial
  | cons x xs => exact h.1

theorem Expr.inPlace_head? {xs : List Expr} (h : Expr.AllInPlace xs) : Expr.OptionInPlace xs.head? := by
  cases xs with
  | nil => trivial
  | cons x xs => exact h.1

theorem Field.untagged_cons {ns : List Ident} {t : Expr} {fs : List Field} (h : Field.Untagged fs) :
    Field.Untagged (.mk ns t none :: fs) :=
  List.forall_mem_cons.mpr ⟨rfl, h⟩

namespace Grammar
open Lexical (Place)
open Reading

/-- A spread argument is an argument. -/
theorem ne_nil_of_spread {as : List Arg} (h : as.any Arg.isSpread = true) : as ≠ [] := by
  rintro rfl
  cases h

theorem PrefixOp.text_ne (op : PrefixOp) : op.text ≠ "*" := by
  cases op <;> decide

variable (s : Setting)

/-! ## Expressions, statements and declarations -/

mutual

theorem Node.read_shaped : ∀ x : Node, Gives (x.read s) fun e => e.Shaped ∧ e.InPlace
  | .mk k p => .visit s p (.bind (k.read_shaped p) fun _ h => .pure h)
termination_by structural x => x

theorem NodeKind.read_shaped (start : Place) : ∀ k : NodeKind, Gives (k.read s start) fun k' => k'.Shaped ∧ k'.InPlace
  | .name _ => .pure ⟨trivial, trivial⟩
  | .literal _ => .pure ⟨trivial, trivial⟩
  | .paren x => .bind x.read_shaped fun _ h => .pure h
  | .select x _ => .bind x.read_shaped fun _ h => .pure h
  | .index x i => .bind x.read_shaped fun _ h => .bind i.read_shaped fun _ h' => .pure ⟨⟨h.1, h'.1⟩, h.2, h'.2⟩
  | .slice x low high =>
    .bind x.read_shaped fun _ h => .bind (readOption_shaped low) fun _ hlow =>
      .bind (readOption_shaped high) fun _ hhigh =>
        .pure ⟨⟨h.1, hlow.1, hhigh.1, trivial, rfl⟩, h.2, hlow.2, hhigh.2, trivial⟩
  | .slice3 x low high max =>
    .bind x.read_shaped fun _ h => .bind (readOption_shaped low) fun _ hlow => .bind high.read_shaped fun _ hhigh =>
      .bind max.read_shaped fun _ hmax =>
        .pure ⟨⟨h.1, hlow.1, hhigh.1, hmax.1, rfl⟩, h.2, hlow.2, hhigh.2, hmax.2⟩
  | .assert x t =>
    .bind x.read_shaped fun _ h => .bind t.read_shaped fun _ ht => .pure ⟨⟨h.1, ht.1⟩, h.2, ht.2, rfl⟩
  | .call f as =>
    .bind (readArgs_shaped as) fun _ has => .bind f.read_shaped fun _ h =>
      .pure ⟨⟨h.1, has.1.1, fun hspread => has.1.2 (ne_nil_of_spread hspread)⟩, h.2, has.2⟩
  | .convert t x =>
    .bind t.read_shaped fun _ ht => .bind x.read_shaped fun _ h =>
      .pure ⟨⟨ht.1, ⟨h.1, trivial⟩, nofun⟩, ht.2, h.2, trivial⟩
  | .star x => .bind x.read_shaped fun _ h => .pure h
  | .unary op x => .bind x.read_shaped fun _ h => .pure ⟨h.1, op.text_ne, h.2⟩
  | .binary x _ y => .bind x.read_shaped fun _ h => .bind y.read_shaped fun _ h' => .pure ⟨⟨h.1, h'.1⟩, h.2, h'.2⟩
  | .composite t es =>
    .bind t.read_shaped fun _ ht => .bind (readAll_shaped es) fun _ hes => .pure ⟨⟨ht.1, hes.1⟩, ht.2, hes.2⟩
  | .braces es => .bind (readAll_shaped es) fun _ hes => .pure ⟨⟨trivial, hes.1⟩, trivial, hes.2⟩
  | .keyed k v => .bind k.read_shaped fun _ h => .bind v.read_shaped fun _ h' => .pure ⟨⟨h.1, h'.1⟩, h.2, h'.2⟩
  | .func t b => .bind t.read_shaped fun _ ht => .bind b.read_shaped fun _ hb => .pure ⟨⟨ht.1, hb.1⟩, ht.2, hb.2⟩
  | .array n t => .bind n.read_shaped fun _ h => .bind t.read_shaped fun _ h' => .pure ⟨⟨h.1, h'.1⟩, h.2, h'.2⟩
  | .openArray t => .bind t.read_shaped fun _ h => .pure ⟨⟨trivial, h.1⟩, trivial, h.2⟩
  | .sliceOf t => .bind t.read_shaped fun _ h => .pure ⟨⟨trivial, h.1⟩, trivial, h.2⟩
  | .struct ms => .bind (readMembers_shaped ms) fun _ h => .pure h
  | .interface es => .bind (readElements_shaped es) fun _ h => .pure h
  | .map k v => .bind k.read_shaped fun _ h => .bind v.read_shaped fun _ h' => .pure ⟨⟨h.1, h'.1⟩, h.2, h'.2⟩
  | .chan _ v => .bind v.read_shaped fun _ h => .pure h
  | .funcType t => .bind t.read_shaped fun _ h => .pure h
  | .generic form bracket => .refuse s _ (form.place start bracket)
termination_by structural k => k

theorem readOption_shaped : ∀ x : Option Node,
    Gives (readOption s x) fun e => Expr.OptionShaped e ∧ Expr.OptionInPlace e
  | none => .pure ⟨trivial, trivial⟩
  | some x => .bind x.read_shaped fun _ h => .pure h
termination_by structural x => x

theorem readAll_shaped : ∀ xs : List Node, Gives (readAll s xs) fun es => Expr.AllShaped es ∧ Expr.AllInPlace es
  | [] => .pure ⟨trivial, trivial⟩
  | x :: xs => .bind x.read_shaped fun _ h => .bind (readAll_shaped xs) fun _ hs => .pure ⟨⟨h.1, hs.1⟩, h.2, hs.2⟩
termination_by structural xs => xs

/-- No argument is lost. -/
theorem readArgs_shaped : ∀ as : List Arg,
    Gives (readArgs s as) fun es => (Expr.AllShaped es ∧ (as ≠ [] → es ≠ [])) ∧ Expr.AllInPlace es
  | [] => .pure ⟨⟨trivial, fun h => absurd rfl h⟩, trivial⟩
  | .plain x :: as => .bind x.read_shaped fun _ h => .bind (readArgs_shaped as) fun _ hs =>
    .pure ⟨⟨⟨h.1, hs.1.1⟩, fun _ => List.cons_ne_nil _ _⟩, h.2, hs.2⟩
  | .spread x :: as => .bind x.read_shaped fun _ h => .bind (readArgs_shaped as) fun _ hs =>
    .pure ⟨⟨⟨h.1, hs.1.1⟩, fun _ => List.cons_ne_nil _ _⟩, h.2, hs.2⟩
termination_by structural as => as

theorem Signature.read_shaped : ∀ t : Signature, Gives (t.read s) fun t' => t'.Shaped ∧ t'.InPlace
  | .mk ps none => .bind (readParams_shaped ps) fun _ h => .pure h
  | .mk ps (some rs) => .bind (readParams_shaped ps) fun _ h => .bind (readParams_shaped rs) fun _ h' =>
    .pure ⟨⟨h.1, h'.1⟩, h.2, h'.2⟩
termination_by structural t => t

theorem readParams_shaped : ∀ ps : List Param,
    Gives (readParams s ps) fun fs => (Field.AllShaped fs ∧ Field.Untagged fs) ∧ Field.AllInPlace fs
  | [] => .pure ⟨⟨trivial, nofun⟩, trivial⟩
  | .mk _ none t :: ps => .bind t.read_shaped fun _ h => .bind (readParams_shaped ps) fun _ hs =>
    .pure ⟨⟨⟨h.1, hs.1.1⟩, Field.untagged_cons hs.1.2⟩, h.2, hs.2⟩
  | .mk _ (some _) t :: ps => .bind t.read_shaped fun _ h => .bind (readParams_shaped ps) fun _ hs =>
    .pure ⟨⟨⟨h.1, hs.1.1⟩, Field.untagged_cons hs.1.2⟩, h.2, hs.2⟩
termination_by structural ps => ps

theorem readMembers_shaped : ∀ ms : List Member,
    Gives (readMembers s ms) fun fs => Field.AllShaped fs ∧ Field.AllInPlace fs
  | [] => .pure ⟨trivial, trivial⟩
  | .named _ _ t _ :: ms => .bind t.read_shaped fun _ h => .bind (readMembers_shaped ms) fun _ hs =>
    .pure ⟨⟨h.1, hs.1⟩, h.2, hs.2⟩
  | .embedded none t _ :: ms => .bind t.read_shaped fun _ h => .bind (readMembers_shaped ms) fun _ hs =>
    .pure ⟨⟨h.1, hs.1⟩, h.2, hs.2⟩
  | .embedded (some _) t _ :: ms => .bind t.read_shaped fun _ h => .bind (readMembers_shaped ms) fun _ hs =>
    .pure ⟨⟨h.1, hs.1⟩, h.2, hs.2⟩
termination_by structural ms => ms

theorem readElements_shaped : ∀ es : List Element,
    Gives (readElements s es) fun fs =>
      (Field.AllShaped fs ∧ Field.Untagged fs) ∧ Field.AllInPlace fs ∧ fs.all Field.isElement
  | [] => .pure ⟨⟨trivial, nofun⟩, trivial, rfl⟩
  | .method _ t :: es => .bind t.read_shaped fun _ h => .bind (readElements_shaped es) fun _ hs =>
    .pure ⟨⟨⟨h.1, hs.1.1⟩, Field.untagged_cons hs.1.2⟩, ⟨h.2, hs.2.1⟩, hs.2.2⟩
  | .embedded t :: es => .bind t.read_shaped fun _ h => .bind (readElements_shaped es) fun _ hs =>
    .pure ⟨⟨⟨h.1, hs.1.1⟩, Field.untagged_cons hs.1.2⟩, ⟨h.2, hs.2.1⟩, hs.2.2⟩
  | .union start :: _ => .refuse s _ start
termination_by structural es => es

theorem Block.read_shaped : ∀ b : Block, Gives (b.read s) fun b' => b'.Shaped ∧ b'.InPlace
  | .mk ss _ => .bind (readStmts_shaped ss) fun _ h => .pure h
termination_by structural b => b

theorem Stmt.read_shaped : ∀ x : Stmt, Gives (x.read s) fun x' => x'.Shaped ∧ x'.InPlace
  | .mk k p => .visit s p (.bind (k.read_shaped p) fun _ h => .pure h)
termination_by structural x => x

theorem readStmts_shaped : ∀ ss : List Stmt,
    Gives (readStmts s ss) fun ss' => GoRebuild.Stmt.AllShaped ss' ∧ GoRebuild.Stmt.AllInPlace ss'
  | [] => .pure ⟨trivial, trivial⟩
  | x :: xs => .bind x.read_shaped fun _ h => .bind (readStmts_shaped xs) fun _ hs => .pure ⟨⟨h.1, hs.1⟩, h.2, hs.2⟩
termination_by structural ss => ss

theorem readStmt?_shaped : ∀ x : Option Stmt,
    Gives (readStmt? s x) fun x' => GoRebuild.Stmt.OptionShaped x' ∧ GoRebuild.Stmt.OptionInPlace x'
  | none => .pure ⟨trivial, trivial⟩
  | some x => .bind x.read_shaped fun _ h => .pure h
termination_by structural x => x

theorem StmtKind.read_shaped (start : Place) : ∀ k : StmtKind, Gives (k.read s start) fun k' => k'.Shaped ∧ k'.InPlace
  | .decl d => .bind (d.read_shaped start) fun _ h => .pure h
  | .expr x => .bind x.read_shaped fun _ h => .pure h
  | .send x y => .bind x.read_shaped fun _ h => .bind y.read_shaped fun _ h' => .pure ⟨⟨h.1, h'.1⟩, h.2, h'.2⟩
  | .step x _ => .bind x.read_shaped fun _ h => .pure h
  | .assign l _ r =>
    .bind (readAll_shaped l) fun _ h => .bind (readAll_shaped r) fun _ h' => .pure ⟨⟨h.1, h'.1⟩, h.2, h'.2⟩
  | .receive l _ y =>
    .bind y.read_shaped fun _ h' => .bind (readAll_shaped l) fun _ h =>
      .pure ⟨⟨h.1, h'.1, trivial⟩, h.2, h'.2, trivial⟩
  | .returnStmt rs => .bind (readAll_shaped rs) fun _ h => .pure h
  | .goStmt x => .bind x.read_shaped fun _ h => .pure h
  | .deferStmt x => .bind x.read_shaped fun _ h => .pure h
  | .labeled _ none => .pure ⟨trivial, trivial⟩
  | .labeled _ (some x) => .bind x.read_shaped fun _ h => .pure h
  | .branch _ => .pure ⟨trivial, trivial⟩
  | .block (.mk ss _) => .bind (readStmts_shaped ss) fun _ h => .pure h
  | .empty => .pure ⟨trivial, trivial⟩
  | .conditional c => fun depth k hk => (c.read_shaped depth k hk).1
  | .loop h b => .bind b.read_shaped fun _ hb => h.read_shaped hb
  | .switch i t cs =>
    .bind (readClauses_shaped cs) fun _ hcs => .bind (readStmt?_shaped i) fun _ hi =>
      .bind (readOption_shaped t) fun _ ht => .pure ⟨⟨hi.1, ht.1, hcs.1⟩, hi.2, ht.2, hcs.2⟩
  | .typeSwitch i [] x cs =>
    .bind x.read_shaped fun _ hx => .bind (.any _) fun _ _ => .bind (readClauses_shaped cs) fun _ hcs =>
      .bind (readStmt?_shaped i) fun _ hi => .pure ⟨⟨hi.1, ⟨hx.1, trivial⟩, hcs.1⟩, hi.2, hx.2, hcs.2⟩
  | .typeSwitch i (n :: ns) x cs =>
    .bind x.read_shaped fun _ hx => .bind (readAll_shaped (n :: ns)) fun _ hns =>
      .bind (readClauses_shaped cs) fun _ hcs => .bind (readStmt?_shaped i) fun _ hi =>
        .pure ⟨⟨hi.1, ⟨hns.1, ⟨hx.1, trivial⟩, trivial⟩, hcs.1⟩, hi.2, ⟨hns.2, hx.2⟩, hcs.2⟩
  | .select cs => .bind (readCommClauses_shaped cs) fun _ h => .pure h
termination_by structural k => k

/-- An `if` statement is one that may follow `else`. -/
theorem Conditional.read_shaped : ∀ c : Conditional,
    Gives (c.read s) fun k => (k.Shaped ∧ k.InPlace) ∧ ∀ p, (GoRebuild.Stmt.mk k p).followsElse
  | .mk i c b e _ =>
    .bind (readElse_shaped e) fun _ he => .bind (readStmt?_shaped i) fun _ hi => .bind c.read_shaped fun _ hc =>
      .bind b.read_shaped fun _ hb =>
        .pure ⟨⟨⟨hi.1, hc.1, hb.1, he.1.1, he.2⟩, hi.2, hc.2, hb.2, he.1.2⟩, fun _ => rfl⟩
termination_by structural c => c

theorem readElse_shaped : ∀ e : Option Else,
    Gives (readElse s e) fun e' =>
      (GoRebuild.Stmt.OptionShaped e' ∧ GoRebuild.Stmt.OptionInPlace e') ∧ e'.all GoRebuild.Stmt.followsElse
  | none => .pure ⟨⟨trivial, trivial⟩, rfl⟩
  | some (.block (.mk ss p)) => .visit s p (.bind (readStmts_shaped ss) fun _ h => .pure ⟨h, rfl⟩)
  | some (.chain c) => .visit s c.start (.bind c.read_shaped fun _ h => .pure ⟨h.1, h.2 _⟩)
termination_by structural e => e

theorem LoopHeader.read_shaped {body : GoRebuild.Block} (hb : body.Shaped ∧ body.InPlace) :
    ∀ h : LoopHeader, Gives (h.read s body) fun k => k.Shaped ∧ k.InPlace
  | .forever => .pure ⟨⟨trivial, trivial, trivial, hb.1⟩, trivial, trivial, trivial, hb.2⟩
  | .while c => .bind c.read_shaped fun _ h =>
    .pure ⟨⟨trivial, h.1, trivial, hb.1⟩, trivial, h.2, trivial, hb.2⟩
  | .steps i c p =>
    .bind (readStmt?_shaped i) fun _ hi => .bind (readOption_shaped c) fun _ hc =>
      .bind (readStmt?_shaped p) fun _ hp => .pure ⟨⟨hi.1, hc.1, hp.1, hb.1⟩, hi.2, hc.2, hp.2, hb.2⟩
  | .over x => .bind x.read_shaped fun _ h =>
    .pure ⟨⟨trivial, trivial, h.1, hb.1, rfl, nofun⟩, trivial, trivial, h.2, hb.2⟩
  | .assigning k more _ x =>
    .bind k.read_shaped fun _ hk => .bind (readAll_shaped more) fun _ hmore => .bind x.read_shaped fun _ hx =>
      .pure ⟨⟨hk.1, Expr.shaped_head? hmore.1, hx.1, hb.1, rfl, fun _ => rfl⟩,
        hk.2, Expr.inPlace_head? hmore.2, hx.2, hb.2⟩
termination_by structural h => h

theorem readClauses_shaped : ∀ cs : List Clause,
    Gives (readClauses s cs) fun xs => GoRebuild.Stmt.AllShaped xs ∧ GoRebuild.Stmt.CasesInPlace xs
  | [] => .pure ⟨trivial, trivial⟩
  | .case x xs b _ :: cs =>
    .bind x.read_shaped fun _ h => .bind (readAll_shaped xs) fun _ hs => .bind (readStmts_shaped b) fun _ hb =>
      .bind (readClauses_shaped cs) fun _ hcs =>
        .pure ⟨⟨⟨⟨h.1, hs.1⟩, hb.1⟩, hcs.1⟩, ⟨h.2, hs.2⟩, hb.2, hcs.2⟩
  | .otherwise b _ :: cs =>
    .bind (readStmts_shaped b) fun _ hb => .bind (readClauses_shaped cs) fun _ hcs =>
      .pure ⟨⟨⟨trivial, hb.1⟩, hcs.1⟩, trivial, hb.2, hcs.2⟩
termination_by structural cs => cs

theorem readCommClauses_shaped : ∀ cs : List CommClause,
    Gives (readCommClauses s cs) fun xs => GoRebuild.Stmt.AllShaped xs ∧ GoRebuild.Stmt.CommsInPlace xs
  | [] => .pure ⟨trivial, trivial⟩
  | .mk c b _ :: cs =>
    .bind (readStmt?_shaped c) fun _ hc => .bind (readStmts_shaped b) fun _ hb =>
      .bind (readCommClauses_shaped cs) fun _ hcs => .pure ⟨⟨⟨hc.1, hb.1⟩, hcs.1⟩, hc.2, hb.2, hcs.2⟩
termination_by structural cs => cs

theorem Decl.read_shaped (start : Place) : ∀ d : Decl, Gives (d.read s start) fun d' => d'.Shaped ∧ d'.InPlace
  | .value tok x _ => .bind x.read_shaped fun _ h =>
    .pure ⟨⟨⟨h.1.1, trivial⟩, fun _ => rfl⟩, ⟨h.1.2, trivial⟩, by simp [h.2 tok]⟩
  | .values tok xs _ => .bind (readValueSpecs_shaped xs) fun _ h => .pure ⟨⟨h.1.1, nofun⟩, h.1.2, h.2 tok⟩
  | .type x _ => .bind x.read_shaped fun _ h =>
    .pure ⟨⟨⟨h.1.1, trivial⟩, fun _ => rfl⟩, ⟨h.1.2, trivial⟩, by simp [h.2]⟩
  | .types xs _ => .bind (readTypeSpecs_shaped xs) fun _ h => .pure ⟨⟨h.1.1, nofun⟩, h.1.2, h.2⟩
termination_by structural d => d

/-- An entry of a `const` or `var` fits both. -/
theorem ValueSpec.read_shaped : ∀ x : ValueSpec,
    Gives (x.read s) fun x' => (x'.Shaped ∧ x'.InPlace) ∧ ∀ tok : ValueTok, x'.fits tok.declToken
  | .mk _ _ t vs =>
    .bind (readOption_shaped t) fun _ ht => .bind (readAll_shaped vs) fun _ hvs =>
      .pure ⟨⟨⟨List.cons_ne_nil _ _, ht.1, hvs.1⟩, ht.2, hvs.2⟩, fun tok => by cases tok <;> rfl⟩
termination_by structural x => x

theorem readValueSpecs_shaped : ∀ xs : List ValueSpec,
    Gives (readValueSpecs s xs) fun xs' =>
      (Spec.AllShaped xs' ∧ Spec.AllInPlace xs') ∧ ∀ tok : ValueTok, xs'.all (Spec.fits tok.declToken)
  | [] => .pure ⟨⟨trivial, trivial⟩, fun _ => rfl⟩
  | x :: xs => .bind x.read_shaped fun _ h => .bind (readValueSpecs_shaped xs) fun _ hs =>
    .pure ⟨⟨⟨h.1.1, hs.1.1⟩, h.1.2, hs.1.2⟩, fun tok => by rw [List.all_cons, h.2 tok, hs.2 tok]; rfl⟩
termination_by structural xs => xs

theorem TypeSpec.read_shaped : ∀ x : TypeSpec,
    Gives (x.read s) fun x' => (x'.Shaped ∧ x'.InPlace) ∧ x'.fits .typeTok
  | .mk _ (some params) _ _ => .refuse s _ params
  | .mk _ none _ t => .bind t.read_shaped fun _ h => .pure ⟨h, rfl⟩
termination_by structural x => x

theorem readTypeSpecs_shaped : ∀ xs : List TypeSpec,
    Gives (readTypeSpecs s xs) fun xs' =>
      (Spec.AllShaped xs' ∧ Spec.AllInPlace xs') ∧ xs'.all (Spec.fits .typeTok)
  | [] => .pure ⟨⟨trivial, trivial⟩, rfl⟩
  | x :: xs => .bind x.read_shaped fun _ h => .bind (readTypeSpecs_shaped xs) fun _ hs =>
    .pure ⟨⟨⟨h.1.1, hs.1.1⟩, h.1.2, hs.1.2⟩, by rw [List.all_cons, h.2, hs.2]; rfl⟩
termination_by structural xs => xs

end

/-! ## Entries at top level -/

theorem Func.read_shaped (f : Func) : Gives (f.read s) fun d => d.Shaped ∧ d.InPlace := by
  obtain ⟨recv, n, params, sig, body, start⟩ := f
  unfold Func.read
  cases params with
  | some p => exact .bind (Q := fun _ => False) (.refuse s _ p) fun _ h => h.elim
  | none =>
    have hrecv : Gives (recv.mapM (readParams s)) fun fs => Field.ReceiverShaped fs ∧ Field.ReceiverInPlace fs := by
      cases recv with
      | none => exact .pure ⟨trivial, trivial⟩
      | some ps => exact .bind (readParams_shaped s ps) fun _ h => .pure h
    have hbody : Gives (body.mapM (Block.read s)) fun b =>
        GoRebuild.Block.OptionShaped b ∧ GoRebuild.Block.OptionInPlace b := by
      cases body with
      | none => exact .pure ⟨trivial, trivial⟩
      | some b => exact .bind (b.read_shaped s) fun _ h => .pure h
    exact .bind hrecv fun _ hrecv => .bind hbody fun _ hbody => .bind (sig.read_shaped s) fun _ hsig =>
      .pure ⟨⟨hrecv.1, hsig.1, hbody.1⟩, hrecv.2, hsig.2, hbody.2⟩

theorem imported_shaped (is : List ImportSpec) :
    (Spec.AllShaped (is.map .imported) ∧ Spec.AllInPlace (is.map .imported)) ∧
      (is.map Spec.imported).all (Spec.fits .importTok) := by
  induction is with
  | nil => exact ⟨⟨trivial, trivial⟩, rfl⟩
  | cons i is ih => exact ⟨⟨⟨trivial, ih.1.1⟩, trivial, ih.1.2⟩, ih.2⟩

theorem Item.read_shaped (i : Item) : Gives (i.read s) fun t => ∀ d ∈ t.decl?, d.Shaped ∧ d.InPlace := by
  cases i with
  | package n => exact .pure nofun
  | importOne i start =>
    refine .pure fun d hd => ?_
    cases hd
    exact ⟨⟨⟨trivial, trivial⟩, fun _ => rfl⟩, ⟨trivial, trivial⟩, rfl⟩
  | imports is start =>
    refine .pure fun d hd => ?_
    cases hd
    have hspecs := imported_shaped (is.map fun i => i.read s)
    rw [List.map_map] at hspecs
    exact ⟨⟨hspecs.1.1, nofun⟩, hspecs.1.2, hspecs.2⟩
  | func f => exact .bind (f.read_shaped s) fun _ h => .pure fun d hd => by cases hd; exact h
  | stmt x =>
    obtain ⟨k, p⟩ := x
    cases k with
    | decl d => exact .bind (d.read_shaped s p) fun _ h => .pure fun d hd => by cases hd; exact h
    | _ => exact .refuse s _ _

/-! ## Clauses for all else -/

/-- Whether a clause of a `switch` is for all else. -/
def Clause.isDefault : Clause → Bool
  | .otherwise _ _ => true
  | .case _ _ _ _ => false

/-- Whether a clause of a `select` is for all else. -/
def CommClause.isDefault : CommClause → Bool
  | .mk comm _ _ => comm.isNone

end Grammar

/-- Whether a statement is a clause without cases, or one without a communication. -/
def Stmt.isDefault : Stmt → Bool
  | .mk (.caseClause [] _) _ | .mk (.commClause none _) _ => true
  | _ => false

/-- The clauses of a statement that has such. -/
def StmtKind.clauses : StmtKind → List Stmt
  | .switchStmt _ _ body | .typeSwitch _ _ body | .selectStmt body => body.stmts
  | _ => []

/-- The parts of a node that are clauses. -/
def Parse.Node.clauseParts (t : Parse.Node) : List Parse.Node :=
  t.parts.filter fun c => c.kind ∈ ["expression_case", "type_case", "communication_case", "default_case"]

namespace Grammar
open Lexical (Place)
open Reading Parse.Node

variable (s : Setting)

/-- A clause that was read has no cases exactly if it is for all else. -/
theorem readClauses_default : ∀ cs : List Clause,
    Gives (readClauses s cs) fun xs => xs.map GoRebuild.Stmt.isDefault = cs.map Clause.isDefault
  | [] => .pure rfl
  | .case _ _ _ _ :: cs => .bind (.any _) fun _ _ => .bind (.any _) fun _ _ => .bind (.any _) fun _ _ =>
    .bind (readClauses_default cs) fun _ h => .pure (congrArg (false :: ·) h)
  | .otherwise _ _ :: cs => .bind (.any _) fun _ _ => .bind (readClauses_default cs) fun _ h =>
    .pure (congrArg (true :: ·) h)

/-- A clause that was read has no communication exactly if it is for all else. -/
theorem readCommClauses_default : ∀ cs : List CommClause,
    Gives (readCommClauses s cs) fun xs => xs.map GoRebuild.Stmt.isDefault = cs.map CommClause.isDefault
  | [] => .pure rfl
  | .mk none _ _ :: cs => .bind (Q := (· = none)) (.pure rfl) fun _ hc => .bind (.any _) fun _ _ =>
    .bind (readCommClauses_default cs) fun _ h => .pure (by subst hc; exact congrArg (true :: ·) h)
  | .mk (some _) _ _ :: cs =>
    .bind (Q := fun c => ∃ x, c = some x) (.bind (.any _) fun x _ => .pure ⟨x, rfl⟩) fun _ hc =>
      .bind (.any _) fun _ _ => .bind (readCommClauses_default cs) fun _ h => .pure (by
        obtain ⟨x, rfl⟩ := hc
        exact congrArg (false :: ·) h)

/-! ### The nodes of clauses -/

def StmtKind.hasClauses : StmtKind → Bool
  | .switch _ _ _ | .typeSwitch _ _ _ _ | .select _ => true
  | _ => false

variable {s : Setting} {t : Parse.Node}

/-- Nodes of clauses, those for all else by their kind. -/
structure AreClauses (defaults : List Bool) (ts : List Parse.Node) : Prop where
  kinds : ∀ c ∈ ts, c.kind ∈ ["expression_case", "type_case", "communication_case", "default_case"]
  defaults : ts.map (fun c => c.kind == "default_case") = defaults

theorem AreClauses.cons {b : Bool} {bs : List Bool} {ts : List Parse.Node} {kind : String} (hkind : t.kind = kind)
    (hmem : kind ∈ ["expression_case", "type_case", "communication_case", "default_case"])
    (hb : (kind == "default_case") = b) (h : AreClauses bs ts) : AreClauses (b :: bs) (t :: ts) where
  kinds := List.forall_mem_cons.mpr ⟨hkind ▸ hmem, h.kinds⟩
  defaults := by rw [List.map_cons, hkind, hb, h.defaults]

theorem Clause.AllDerive.areClauses {types : Bool} : ∀ {clauses : List Clause} {ts : List Parse.Node},
    Clause.AllDerive s.pos types clauses ts → AreClauses (clauses.map Clause.isDefault) ts
  | [], ts, h => by
    rw [show ts = [] from h]
    exact ⟨nofun, rfl⟩
  | .case first more body start :: clauses, ts, h => by
    obtain ⟨t, rest, rfl, -, ⟨vs, row, -, -, -, hkind⟩, hrest⟩ := h
    cases types with
    | true => exact hrest.areClauses.cons hkind.1 (by decide) rfl
    | false => exact hrest.areClauses.cons hkind.1 (by decide) rfl
  | .otherwise body start :: clauses, ts, h => by
    obtain ⟨t, rest, rfl, -, hkind, -, hrest⟩ := h
    exact hrest.areClauses.cons hkind (by decide) rfl

theorem CommClause.AllDerive.areClauses : ∀ {clauses : List CommClause} {ts : List Parse.Node},
    CommClause.AllDerive s.pos clauses ts → AreClauses (clauses.map CommClause.isDefault) ts
  | [], ts, h => by
    rw [show ts = [] from h]
    exact ⟨nofun, rfl⟩
  | .mk none body start :: clauses, ts, h => by
    obtain ⟨t, rest, rfl, -, hkind, -, hrest⟩ := h
    exact hrest.areClauses.cons hkind (by decide) rfl
  | .mk (some comm) body start :: clauses, ts, h => by
    obtain ⟨t, rest, c, row, rfl, -, hkind, -, -, -, -, -, hrest⟩ := h
    exact hrest.areClauses.cons hkind (by decide) rfl

/-- The clauses of a statement are the last of its parts. -/
theorem AreClauses.clauseParts {bs : List Bool} {header clauses : List Parse.Node} (h : AreClauses bs clauses)
    (hparts : t.parts = header ++ clauses) (hheader : ∀ c ∈ header, c.kind ∉ otherKinds) :
    t.clauseParts.map (fun c => c.kind == "default_case") = bs := by
  have hnone : header.filter (fun c =>
      c.kind ∈ ["expression_case", "type_case", "communication_case", "default_case"]) = [] := by
    refine List.filter_eq_nil_iff.mpr fun c hc hkind => hheader c hc ?_
    exact (by decide : ∀ kind ∈ _, kind ∈ otherKinds) _ (of_decide_eq_true hkind)
  have hall := List.filter_eq_self.mpr fun c hc => decide_eq_true (h.kinds c hc)
  rw [Parse.Node.clauseParts, hparts, List.filter_append, hnone, hall, List.nil_append, h.defaults]

/-- What is read of a statement with clauses lacks cases, or a communication, exactly where its node has a clause for all
else. -/
theorem Stmt.read_default {k : StmtKind} {p : Place} {n : Nat} (h : (Stmt.mk k p).Derives s.pos t)
    (hclauses : k.hasClauses) (hn : t.height ≤ n) : Gives ((Readers.upTo s.limit n).stmtKindRule t) fun k' =>
      k'.clauses.map GoRebuild.Stmt.isDefault = t.clauseParts.map fun c => c.kind == "default_case" := by
  obtain ⟨hpos, h⟩ := h
  rw [k.read_derived h hpos hn]
  cases k with
  | switch init tag clauses =>
    obtain ⟨-, a, b, cs, -, -, hparts, ha, hb, hcs⟩ := h
    rw [hcs.areClauses.clauseParts hparts (List.forall_mem_append.mpr
      ⟨fun c hc => ha.not_other c (Option.mem_toList.mp hc), fun c hc => hb.not_other c (Option.mem_toList.mp hc)⟩)]
    exact .bind (readClauses_default s clauses) fun _ h => .bind (.any _) fun _ _ => .bind (.any _) fun _ _ => .pure h
  | typeSwitch init names value clauses =>
    obtain ⟨-, a, b, c, cs, -, -, -, hparts, ha, hb, hc, hcs⟩ := h
    rw [List.append_cons] at hparts
    rw [hcs.areClauses.clauseParts hparts (List.forall_mem_append.mpr
      ⟨List.forall_mem_append.mpr ⟨fun c hc => ha.not_other c (Option.mem_toList.mp hc),
        fun c hc => hb.not_other c (Option.mem_toList.mp hc)⟩, List.forall_mem_singleton.mpr hc.not_other⟩)]
    exact .bind (.any _) fun _ _ => .bind (.any _) fun _ _ => .bind (readClauses_default s clauses) fun _ h =>
      .bind (.any _) fun _ _ => .pure h
  | select clauses =>
    rw [h.2.areClauses.clauseParts (show t.parts = [] ++ t.parts from rfl) nofun]
    exact .bind (readCommClauses_default s clauses) fun _ h => .pure h
  | _ => cases hclauses

end Grammar

/-! ## Files -/

/-- All declarations of a file are well shaped, and its imports are theirs. -/
structure File.WellShaped (f : File) : Prop where
  imports : f.imports = f.decls.flatMap Decl.imports
  shaped : ∀ d ∈ f.decls, d.Shaped
  inPlace : ∀ d ∈ f.decls, d.InPlace

open Grammar Reading Lexical

theorem imports_of_ofParts {parts : List TopLevel} {f : File} (h : File.ofParts parts = .ok f) :
    f.imports = f.decls.flatMap Decl.imports := by
  unfold File.ofParts at h
  split at h
  · cases h
    rfl
  · cases h

section
variable {parser : SourceParser} (hparser : parser.FollowsGrammar)
include hparser

theorem File.read_wellShaped {limit : Nat} {source : String} {f : File} (h : File.read parser limit source = .ok f) :
    f.WellShaped := by
  obtain ⟨items, pos, hderives⟩ := File.exists_derivation hparser h
  obtain ⟨parts, hparts, hf⟩ := File.parts_of_read hderives h
  have hdecls : ∀ d ∈ f.decls, d.Shaped ∧ d.InPlace := by
    intro d hd
    rw [decls_of_ofParts hf] at hd
    obtain ⟨t, ht, hdt⟩ := List.mem_filterMap.mp hd
    exact gives_mapM (fun i : Item => i.read_shaped _) items 0 parts hparts t ht d hdt
  exact ⟨imports_of_ofParts hf, fun d hd => (hdecls d hd).1, fun d hd => (hdecls d hd).2⟩

/-- **Reading gives only well-shaped trees.** Each declaration of a file has the shape of a tree that comes from a
source, and each node in it stands in its place. Of the node of a `switch` or `select`, wherever it stands, the
clauses are read that it has, and one of them has no cases, or no communication, exactly if its node is that of a
`default`. -/
theorem reading_well_shaped :
    (∀ limit source f, File.read parser limit source = .ok f → f.WellShaped) ∧
    ∀ (s : Setting) (k : Grammar.StmtKind) (p : Place) (t : Parse.Node) (n : Nat), (Grammar.Stmt.mk k p).Derives s.pos t →
      k.hasClauses → t.height ≤ n → Gives ((Readers.upTo s.limit n).stmtKindRule t) fun k' =>
        k'.clauses.map Stmt.isDefault = t.clauseParts.map fun c => c.kind == "default_case" :=
  ⟨fun _ _ _ => File.read_wellShaped hparser, fun _ _ _ _ _ => Stmt.read_default⟩

end

/-- A file with clauses of both kinds is well shaped. -/
theorem reading_well_shaped_clauses :
    ∃ f, File.read Grammar.parser 256
        "package p\nfunc f() \x7b switch x := y.(type) \x7b case int: default: \x7d \x7d" = .ok f ∧ f.WellShaped := by
  generalize hsource :
    "package p\nfunc f() \x7b switch x := y.(type) \x7b case int: default: \x7d \x7d" = source
  have hok : (File.read Grammar.parser 256 source).toOption.isSome = true := by
    rw [← hsource]
    decide +kernel
  cases hf : File.read Grammar.parser 256 source with
  | error e =>
    rw [hf] at hok
    cases hok
  | ok f => exact ⟨f, rfl, (reading_well_shaped parser_followsGrammar).1 256 source f hf⟩

end GoRebuild
