import GoRebuild.Proofs.Nesting.Reading
import GoRebuild.Proofs.Program.Isolation
import GoRebuild.Proofs.Reader.Tokens

/-!
# Synthesis succeeds on the supported trees

* `OnlyImaginary o` : an outline refuses imaginary literals and nothing else;
* `Node.read_supported`, `Stmt.read_supported`, `Item.read_supported`, `File.read_supported` : trees that are read
  have such outlines;
* `synthesis_succeeds_iff` : a tree gives a chain exactly if its outline refuses nothing and is not too high, and
  of a file that was read only imaginary literals are refused.
-/

namespace GoRebuild
open Outline

/-- Nothing but imaginary literals is refused. -/
abbrev OnlyImaginary (o : Outline Pos) : Prop :=
  o.Refuses (· = "imaginary literal")

section
variable (σ : Scope)

abbrev Expr.Supported (e : Expr) : Prop := OnlyImaginary (e.outline σ)

/-- The kind of an expression or type, wherever it stands. -/
def ExprKind.Supported (k : ExprKind) : Prop :=
  ∀ pos, OnlyImaginary ((Construct.expr k).outline pos ++ k.outline σ)

abbrev Stmt.Supported (x : Stmt) : Prop := OnlyImaginary (x.outline σ)

def StmtKind.Supported (k : StmtKind) : Prop :=
  ∀ pos, OnlyImaginary ((Construct.stmt k).outline pos ++ k.outline σ)

variable {σ}

theorem Expr.Supported.mk {k : ExprKind} (h : k.Supported σ) (p : Pos) : (Expr.mk k p).Supported σ :=
  .node p (h p)

theorem Stmt.Supported.mk {k : StmtKind} (h : k.Supported σ) (p : Pos) : (Stmt.mk k p).Supported σ :=
  .node p (h p)

theorem BasicLit.supported (l : BasicLit) : (ExprKind.basicLit l).Supported σ := by
  obtain ⟨kind, value⟩ := l
  intro pos
  refine .append ?_ .done
  cases kind with
  | imag =>
    exact @Refuses.refusal _ (· = "imaginary literal") "imaginary literal" rfl pos
  | _ => exact .done

theorem Expr.supported_select {x : Expr} (h : x.Supported σ) (sel : Ident) : (ExprKind.selector x sel).Supported σ := by
  intro pos
  rw [ExprKind.outline_selector]
  cases σ.qualifier? x with
  | some path => exact .done
  | none => exact h

theorem Expr.supported_length {n : Expr} (h : n.Supported σ) : OnlyImaginary (Expr.outlineLength σ (some n)) := by
  by_cases hdots : ∃ p, n = .mk (.ellipsis none) p
  · obtain ⟨p, rfl⟩ := hdots
    exact .done
  · rw [Expr.outlineLength_eq σ hdots]
    exact h

end

namespace Grammar
open Reading

variable (s : Setting) (σ : Scope)

mutual

theorem Node.read_supported : ∀ x : Node, Gives (x.read s) fun e => e.Supported σ
  | .mk k p => .visit s p (.bind (k.read_supported p) fun _ h => .pure (.mk h _))

theorem NodeKind.read_supported (start : Lexical.Place) :
    ∀ k : NodeKind, Gives (k.read s start) fun k' => k'.Supported σ
  | .name _ => .pure fun _ => .done
  | .literal l => .pure l.supported
  | .paren x => .bind x.read_supported fun _ h => .pure fun _ => h
  | .select x _ => .bind x.read_supported fun _ h => .pure (Expr.supported_select h _)
  | .index x i => .bind x.read_supported fun _ h => .bind i.read_supported fun _ h' => .pure fun _ => h'.append h
  | .slice x low high =>
    .bind x.read_supported fun _ h => .bind (readOption_supported low) fun _ hlow =>
      .bind (readOption_supported high) fun _ hhigh => .pure fun _ => hlow.append (hhigh.append h)
  | .slice3 x low high max =>
    .bind x.read_supported fun _ h => .bind (readOption_supported low) fun _ hlow =>
      .bind high.read_supported fun _ hhigh => .bind max.read_supported fun _ hmax =>
        .pure fun _ => hlow.append (hhigh.append (hmax.append h))
  | .assert x t => .bind x.read_supported fun _ h => .bind t.read_supported fun _ h' => .pure fun _ => h'.append h
  | .call f as =>
    .bind (readArgs_supported as) fun _ has => .bind f.read_supported fun _ h => .pure fun _ => has.append h
  | .convert t x =>
    .bind t.read_supported fun _ h => .bind x.read_supported fun _ h' => .pure fun _ => (h'.append .done).append h
  | .star x => .bind x.read_supported fun _ h => .pure fun _ => h
  | .unary _ x => .bind x.read_supported fun _ h => .pure fun _ => h
  | .binary x _ y => .bind x.read_supported fun _ h => .bind y.read_supported fun _ h' => .pure fun _ => h.append h'
  | .composite t es =>
    .bind t.read_supported fun _ h => .bind (readAll_supported es) fun _ hes => .pure fun _ => h.append hes
  | .braces es => .bind (readAll_supported es) fun _ hes => .pure fun _ => hes
  | .keyed k v => .bind k.read_supported fun _ h => .bind v.read_supported fun _ h' => .pure fun _ => h.append h'
  | .func t b => .bind t.read_supported fun _ h => .bind b.read_supported fun _ h' => .pure fun _ => h.append h'
  | .array n t =>
    .bind n.read_supported fun _ h => .bind t.read_supported fun _ h' =>
      .pure fun _ => (Expr.supported_length h).append h'
  | .openArray t => .bind t.read_supported fun _ h => .pure fun _ => h
  | .sliceOf t => .bind t.read_supported fun _ h => .pure fun _ => h
  | .struct ms => .bind (readMembers_supported ms) fun _ h => .pure fun _ => h
  | .interface es => .bind (readElements_supported es) fun _ h => .pure fun _ => h
  | .map k v => .bind k.read_supported fun _ h => .bind v.read_supported fun _ h' => .pure fun _ => h.append h'
  | .chan _ v => .bind v.read_supported fun _ h => .pure fun _ => h
  | .funcType t => .bind t.read_supported fun _ h => .pure fun _ => h
  | .generic form bracket => .refuse s _ (form.place start bracket)

theorem readOption_supported : ∀ x : Option Node,
    Gives (readOption s x) fun e => OnlyImaginary (Expr.outlineOption σ e)
  | none => .pure .done
  | some x => .bind x.read_supported fun _ h => .pure h

theorem readAll_supported : ∀ xs : List Node, Gives (readAll s xs) fun es => OnlyImaginary (Expr.outlineList σ es)
  | [] => .pure .done
  | x :: xs => .bind x.read_supported fun _ h => .bind (readAll_supported xs) fun _ hs => .pure (h.append hs)

theorem readArgs_supported : ∀ as : List Arg,
    Gives (readArgs s as) fun es => OnlyImaginary (Expr.outlineList σ es)
  | [] => .pure .done
  | .plain x :: as => .bind x.read_supported fun _ h => .bind (readArgs_supported as) fun _ hs => .pure (h.append hs)
  | .spread x :: as => .bind x.read_supported fun _ h => .bind (readArgs_supported as) fun _ hs => .pure (h.append hs)

theorem Signature.read_supported : ∀ t : Signature, Gives (t.read s) fun t' => OnlyImaginary (t'.outline σ)
  | .mk ps none => .bind (readParams_supported ps) fun _ h => .pure h
  | .mk ps (some rs) =>
    .bind (readParams_supported ps) fun _ h => .bind (readParams_supported rs) fun _ h' => .pure (h.append h')

theorem readParams_supported : ∀ ps : List Param,
    Gives (readParams s ps) fun fs => OnlyImaginary (Field.outlineList σ fs)
  | [] => .pure .done
  | .mk _ none t :: ps =>
    .bind t.read_supported fun _ h => .bind (readParams_supported ps) fun _ hs => .pure (h.append hs)
  | .mk _ (some _) t :: ps =>
    .bind t.read_supported fun _ h => .bind (readParams_supported ps) fun _ hs =>
      .pure (Refuses.append (.node _ h) hs)

theorem readMembers_supported : ∀ ms : List Member,
    Gives (readMembers s ms) fun fs => OnlyImaginary (Field.outlineList σ fs)
  | [] => .pure .done
  | .named _ _ t _ :: ms =>
    .bind t.read_supported fun _ h => .bind (readMembers_supported ms) fun _ hs => .pure (h.append hs)
  | .embedded none t _ :: ms =>
    .bind t.read_supported fun _ h => .bind (readMembers_supported ms) fun _ hs => .pure (h.append hs)
  | .embedded (some _) t _ :: ms =>
    .bind t.read_supported fun _ h => .bind (readMembers_supported ms) fun _ hs =>
      .pure (Refuses.append (.node _ h) hs)

theorem readElements_supported : ∀ es : List Element,
    Gives (readElements s es) fun fs => OnlyImaginary (Field.outlineElements σ fs)
  | [] => .pure .done
  | .method _ t :: es =>
    .bind t.read_supported fun _ h => .bind (readElements_supported es) fun _ hs => .pure (h.append hs)
  | .embedded t :: es =>
    .bind t.read_supported fun _ h => .bind (readElements_supported es) fun _ hs => .pure (h.append hs)
  | .union start :: _ => .refuse s _ start

theorem Block.read_supported : ∀ b : Block, Gives (b.read s) fun b' => OnlyImaginary (b'.outline σ)
  | .mk ss _ => .bind (readStmts_supported ss) fun _ h => .pure h

theorem Stmt.read_supported : ∀ x : Stmt, Gives (x.read s) fun x' => x'.Supported σ
  | .mk k p => .visit s p (.bind (k.read_supported p) fun _ h => .pure (.mk h _))

theorem readStmts_supported : ∀ ss : List Stmt,
    Gives (readStmts s ss) fun ss' => OnlyImaginary (GoRebuild.Stmt.outlineList σ ss')
  | [] => .pure .done
  | x :: xs => .bind x.read_supported fun _ h => .bind (readStmts_supported xs) fun _ hs => .pure (h.append hs)

theorem readStmt?_supported : ∀ x : Option Stmt,
    Gives (readStmt? s x) fun x' => OnlyImaginary (GoRebuild.Stmt.outlineOption σ x')
  | none => .pure .done
  | some x => .bind x.read_supported fun _ h => .pure h

theorem StmtKind.read_supported (start : Lexical.Place) :
    ∀ k : StmtKind, Gives (k.read s start) fun k' => k'.Supported σ
  | .decl d => .bind (d.read_supported start) fun _ h => .pure fun _ => h
  | .expr x => .bind x.read_supported fun _ h => .pure fun _ => h
  | .send x y => .bind x.read_supported fun _ h => .bind y.read_supported fun _ h' => .pure fun _ => h.append h'
  | .step x _ => .bind x.read_supported fun _ h => .pure fun _ => h
  | .assign l _ r =>
    .bind (readAll_supported l) fun _ h => .bind (readAll_supported r) fun _ h' => .pure fun _ => h.append h'
  | .receive l _ y =>
    .bind y.read_supported fun _ h' => .bind (readAll_supported l) fun _ h =>
      .pure fun _ => h.append (h'.append .done)
  | .returnStmt rs => .bind (readAll_supported rs) fun _ h => .pure fun _ => h
  | .goStmt x => .bind x.read_supported fun _ h => .pure fun _ => h
  | .deferStmt x => .bind x.read_supported fun _ h => .pure fun _ => h
  | .labeled _ none => .pure fun _ => Refuses.node _ .done
  | .labeled _ (some x) => .bind x.read_supported fun _ h => .pure fun _ => h
  | .branch _ => .pure fun _ => .done
  | .block (.mk ss _) => .bind (readStmts_supported ss) fun _ h => .pure fun _ => h
  | .empty => .pure fun _ => .done
  | .conditional c => c.read_supported
  | .loop h b => .bind b.read_supported fun _ hb => h.read_supported hb
  | .switch i t cs =>
    .bind (readClauses_supported cs) fun _ hcs => .bind (readStmt?_supported i) fun _ hi =>
      .bind (readOption_supported t) fun _ ht => .pure fun _ => hi.append (ht.append hcs)
  | .typeSwitch i [] x cs =>
    .bind x.read_supported fun _ hx => .bind (.any _) fun _ _ => .bind (readClauses_supported cs) fun _ hcs =>
      .bind (readStmt?_supported i) fun _ hi =>
        .pure fun _ => hi.append (Refuses.append (.node _ (.node _ hx)) hcs)
  | .typeSwitch i (n :: ns) x cs =>
    .bind x.read_supported fun _ hx => .bind (readAll_supported (n :: ns)) fun _ hns =>
      .bind (readClauses_supported cs) fun _ hcs => .bind (readStmt?_supported i) fun _ hi =>
        .pure fun _ => hi.append (Refuses.append (.node _ (hns.append ((Refuses.node _ hx).append .done))) hcs)
  | .select cs => .bind (readCommClauses_supported cs) fun _ h => .pure fun _ => h

theorem Conditional.read_supported : ∀ c : Conditional, Gives (c.read s) fun k => k.Supported σ
  | .mk i c b e _ =>
    .bind (readElse_supported e) fun _ he => .bind (readStmt?_supported i) fun _ hi =>
      .bind c.read_supported fun _ hc => .bind b.read_supported fun _ hb =>
        .pure fun _ => hi.append (hc.append (hb.append he))

theorem readElse_supported : ∀ e : Option Else,
    Gives (readElse s e) fun e' => OnlyImaginary (GoRebuild.Stmt.outlineOption σ e')
  | none => .pure .done
  | some (.block (.mk ss p)) => .visit s p (.bind (readStmts_supported ss) fun _ h => .pure (Refuses.node _ h))
  | some (.chain c) => .visit s c.start (.bind c.read_supported fun _ h => .pure (Refuses.node _ (h _)))

theorem LoopHeader.read_supported {body : GoRebuild.Block} (hb : OnlyImaginary (body.outline σ)) :
    ∀ h : LoopHeader, Gives (h.read s body) fun k => k.Supported σ
  | .forever => .pure fun _ => hb
  | .while c => .bind c.read_supported fun _ h => .pure fun _ => h.append hb
  | .steps i c p =>
    .bind (readStmt?_supported i) fun _ hi => .bind (readOption_supported c) fun _ hc =>
      .bind (readStmt?_supported p) fun _ hp => .pure fun _ => hi.append (hc.append (hp.append hb))
  | .over x => .bind x.read_supported fun _ h => .pure fun _ => h.append hb
  | .assigning k more _ x =>
    .bind k.read_supported fun _ hk => .bind (readAll_supported more) fun more' hmore =>
      .bind x.read_supported fun _ hx => .pure fun _ => hx.append (hk.append (.append (by
        -- of the other variables the first is kept
        cases more' with
        | nil => exact .done
        | cons v vs =>
          intro r hr
          exact hmore r (by rw [Expr.outlineList, refusals_append]; exact List.mem_append_left _ hr)) hb))

theorem readClauses_supported : ∀ cs : List Clause,
    Gives (readClauses s cs) fun cs' => OnlyImaginary (GoRebuild.Stmt.outlineList σ cs')
  | [] => .pure .done
  | .case x xs b _ :: cs =>
    .bind x.read_supported fun _ h => .bind (readAll_supported xs) fun _ hs => .bind (readStmts_supported b) fun _ hb =>
      .bind (readClauses_supported cs) fun _ hcs => .pure (.append (.node _ ((h.append hs).append hb)) hcs)
  | .otherwise b _ :: cs =>
    .bind (readStmts_supported b) fun _ hb => .bind (readClauses_supported cs) fun _ hcs =>
      .pure (Refuses.append (.node _ hb) hcs)

theorem readCommClauses_supported : ∀ cs : List CommClause,
    Gives (readCommClauses s cs) fun cs' => OnlyImaginary (GoRebuild.Stmt.outlineList σ cs')
  | [] => .pure .done
  | .mk c b _ :: cs =>
    .bind (readStmt?_supported c) fun _ hc => .bind (readStmts_supported b) fun _ hb =>
      .bind (readCommClauses_supported cs) fun _ hcs => .pure (Refuses.append (.node _ (hc.append hb)) hcs)

theorem Decl.read_supported (start : Lexical.Place) : ∀ d : Decl,
    Gives (d.read s start) fun d' => OnlyImaginary (d'.outline σ)
  | .value .constTok x _ => .bind x.read_supported fun _ h => .pure (Refuses.node _ ((h _).append .done))
  | .value .varTok x _ => .bind x.read_supported fun _ h => .pure (Refuses.node _ ((h _).append .done))
  | .values .constTok xs _ => .bind (readValueSpecs_supported xs) fun _ h => .pure (Refuses.node _ (h _))
  | .values .varTok xs _ => .bind (readValueSpecs_supported xs) fun _ h => .pure (Refuses.node _ (h _))
  | .type x _ => .bind x.read_supported fun _ h => .pure (Refuses.node _ ((h _).append .done))
  | .types xs _ => .bind (readTypeSpecs_supported xs) fun _ h => .pure (Refuses.node _ (h _))

theorem ValueSpec.read_supported : ∀ x : ValueSpec, Gives (x.read s) fun x' => ∀ pos, OnlyImaginary (x'.outline σ pos)
  | .mk _ _ t vs =>
    .bind (readOption_supported t) fun _ ht => .bind (readAll_supported vs) fun _ hvs => .pure fun _ => ht.append hvs

theorem readValueSpecs_supported : ∀ xs : List ValueSpec,
    Gives (readValueSpecs s xs) fun xs' => ∀ pos, OnlyImaginary (Spec.outlineList σ pos xs')
  | [] => .pure fun _ => .done
  | x :: xs =>
    .bind x.read_supported fun _ h => .bind (readValueSpecs_supported xs) fun _ hs => .pure fun pos => (h pos).append (hs pos)

theorem TypeSpec.read_supported : ∀ x : TypeSpec, Gives (x.read s) fun x' => ∀ pos, OnlyImaginary (x'.outline σ pos)
  | .mk _ (some params) _ _ => .refuse s _ params
  | .mk _ none _ t => .bind t.read_supported fun _ h => .pure fun _ => h

theorem readTypeSpecs_supported : ∀ xs : List TypeSpec,
    Gives (readTypeSpecs s xs) fun xs' => ∀ pos, OnlyImaginary (Spec.outlineList σ pos xs')
  | [] => .pure fun _ => .done
  | x :: xs =>
    .bind x.read_supported fun _ h => .bind (readTypeSpecs_supported xs) fun _ hs => .pure fun pos => (h pos).append (hs pos)

end

theorem Func.read_supported (f : Func) : Gives (f.read s) fun d => OnlyImaginary (d.outline σ) := by
  obtain ⟨recv, n, params, sig, body, start⟩ := f
  unfold Func.read
  cases params with
  | some p => exact .bind (Q := fun _ => False) (.refuse s _ p) fun _ h => h.elim
  | none =>
    have hrecv : Gives (recv.mapM (readParams s)) fun fs => OnlyImaginary (Field.outlineReceiver σ fs) := by
      cases recv with
      | none => exact .pure .done
      | some ps => exact .bind (readParams_supported s σ ps) fun _ h => .pure h
    have hbody : Gives (body.mapM (Block.read s)) fun b => OnlyImaginary (GoRebuild.Block.outlineOption σ b) := by
      cases body with
      | none => exact .pure .done
      | some b => exact .bind (b.read_supported s σ) fun _ h => .pure h
    exact .bind hrecv fun _ hrecv => .bind hbody fun _ hbody => .bind (sig.read_supported s σ) fun _ hsig =>
      .pure (.node _ (hrecv.append (hsig.append hbody)))

theorem Item.read_supported (i : Item) :
    Gives (i.read s) fun t => ∀ d ∈ t.decl?, OnlyImaginary (d.outline σ) := by
  have hgen {d : GenDecl} (h : OnlyImaginary (d.outline σ)) : OnlyImaginary ((GoRebuild.Decl.gen d).outline σ) := by
    obtain ⟨tok, p, grouped, xs⟩ := d
    cases tok with
    | importTok => exact .done
    | _ => exact h
  cases i with
  | package n => exact .pure nofun
  | importOne i start => exact .pure fun d hd => by cases hd; exact .done
  | imports is start => exact .pure fun d hd => by cases hd; exact .done
  | func f => exact .bind (f.read_supported s σ) fun _ h => .pure fun d hd => by cases hd; exact h
  | stmt x =>
    obtain ⟨k, p⟩ := x
    cases k with
    | decl d => exact .bind (d.read_supported s σ p) fun _ h => .pure fun d hd => by cases hd; exact hgen h
    | _ => exact .refuse s _ _

end Grammar

open Grammar Lexical Reading

/-- Of the declarations of a file that was read, synthesis refuses imaginary literals only. -/
theorem File.read_supported {parser : SourceParser} (hparser : parser.FollowsGrammar) {limit : Nat} {source : String}
    {f : File} (h : File.read parser limit source = .ok f) (σ : Scope) {d : GoRebuild.Decl} (hd : d ∈ f.decls) : OnlyImaginary (d.outline σ) := by
  obtain ⟨items, pos, hderives⟩ := File.exists_derivation hparser h
  obtain ⟨parts, hparts, hf⟩ := File.parts_of_read hderives h
  rw [decls_of_ofParts hf] at hd
  obtain ⟨t, ht, hdt⟩ := List.mem_filterMap.mp hd
  exact gives_mapM (fun i : Item => i.read_supported _ σ) items 0 parts hparts t ht d hdt

/-- A failure for an import: a dot import, or a local name that is used twice. -/
def SynthError.IsImport : SynthError → Prop
  | dotImport _ _ | duplicateAlias _ _ _ _ => True
  | unsupported _ _ | emptyProgramName | tooDeep _ _ => False

theorem SymbolTable.add_refuses {t : SymbolTable} {i : ImportSpec} {e : SynthError} (h : t.add i = .error e) :
    e.IsImport := by
  have hbind {t : SymbolTable} {name : String} (h : t.bind name i = .error e) : e.IsImport := by
    unfold SymbolTable.bind at h
    split at h <;> cases h
    trivial
  unfold SymbolTable.add at h
  split at h
  · cases h
    trivial
  · cases h
  · exact hbind h
  · exact hbind h

/-- The table of imports refuses nothing else. -/
theorem SymbolTable.build_refuses {imports : List ImportSpec} {e : SynthError}
    (h : SymbolTable.build imports = .error e) : e.IsImport := by
  unfold SymbolTable.build at h
  generalize ({} : SymbolTable) = t at h
  induction imports generalizing t with
  | nil => cases h
  | cons i is ih =>
    rw [List.foldlM_cons] at h
    cases hadd : t.add i with
    | error e' =>
      rw [hadd] at h
      cases h
      exact add_refuses hadd
    | ok t' =>
      rw [hadd] at h
      exact ih t' h

/-- What assembling the program of a file that was read refuses is an imaginary literal. -/
theorem assemble_refuses_imaginary {parser : SourceParser} (hparser : parser.FollowsGrammar) {limit : Nat}
    {source : String} {f : File} (hread : File.read parser limit source = .ok f) {o : Options} {kind : String} {pos : Pos}
    (h : assemble f o = .error (.unsupported kind pos)) : kind = "imaginary literal" := by
  rw [assemble_eq_assembleBy] at h
  rcases error_of_assembleBy h with ⟨-, h⟩ | h | ⟨table, -, h⟩
  · cases h
  · exact (SymbolTable.build_refuses h).elim
  · obtain ⟨before, d, after, hdecls, -, hd⟩ := firstFailure_of_synthApart h
    have hmem : d ∈ f.decls := by
      rw [hdecls]
      exact List.mem_append_right before List.mem_cons_self
    rcases (d.follows_synth ⟨table, o.limit⟩).failure hd with ⟨kind', pos', heq, hrefusal⟩ | ⟨pos', heq, -⟩
    · cases heq
      exact File.read_supported hparser hread _ hmem _ hrefusal
    · cases heq

/-- **Synthesis succeeds exactly on the supported trees.** A request is answered exactly if nothing in its
outline is refused and no way down it is longer than the limit. Otherwise the answer is a failure, which names a
refusal, or the limit that is passed. Of a file that was read nothing but an imaginary literal is refused, whatever parser
of the grammar it was read with. -/
theorem synthesis_succeeds_iff :
    (∀ (s : Scope) (r : Request),
      ((∃ a, (r.run s).answer = .ok a) ↔ (r.outline s).refusals = [] ∧ (r.outline s).height ≤ s.limit) ∧
      ∀ e, (r.run s).answer = .error e →
        (∃ kind pos, e = .unsupported kind pos ∧ (kind, pos) ∈ (r.outline s).refusals) ∨
          ∃ pos, e = .tooDeep s.limit pos ∧ s.limit < (r.outline s).height) ∧
    ∀ parser : SourceParser, parser.FollowsGrammar → ∀ limit source f, File.read parser limit source = .ok f →
      ∀ o kind pos, assemble f o = .error (.unsupported kind pos) → kind = "imaginary literal" :=
  ⟨fun s r => ⟨(r.follows_run s).answers_iff, fun _ => (r.follows_run s).failure⟩,
    fun _ hparser _ _ _ hread _ _ _ => assemble_refuses_imaginary hparser hread⟩

/-- A source with an imaginary literal is read, and its program is refused for that. -/
theorem synthesis_succeeds_iff_imaginary :
    ∃ f pos, File.read Grammar.parser 256 "package p\nvar x = 1i" = .ok f ∧
      assemble f {} = .error (.unsupported "imaginary literal" pos) := by
  generalize hsource : "package p\nvar x = 1i" = source
  have hrefused : ((File.read Grammar.parser 256 source).toOption.map fun f => match assemble f {} with
      | .error (.unsupported _ _) => true
      | _ => false) = some true := by
    rw [← hsource]
    decide +kernel
  cases hf : File.read Grammar.parser 256 source with
  | error e =>
    rw [hf] at hrefused
    cases hrefused
  | ok f =>
    rw [hf, Except.toOption, Option.map_some] at hrefused
    split at hrefused
    · rename_i kind pos hassemble
      have hkind := synthesis_succeeds_iff.2 Grammar.parser parser_followsGrammar 256 source f hf {} kind pos hassemble
      exact ⟨f, pos, rfl, hkind ▸ hassemble⟩
    · cases hrefused

end GoRebuild
