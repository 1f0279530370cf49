import GoRebuild.Program.Generator
import GoRebuild.Proofs.Chain.Rows
import GoRebuild.Proofs.Synth.Results

/-!
# Synthesis gives chains that can be written

The methods of synthesis are identifiers, and its integers come from literals.

* `Writable.append`, `writable_group`, `writable_keyword`, `writable_name` : the chains that synthesis uses;
* `Expr.writable_synth`, `Stmt.writable_synth`, `GenDecl.writable_synth`, `FuncDecl.writable_synth` : the rules;
* `Decl.writable_synth` : the chains of generators.
-/

namespace GoRebuild
open Chain Synth
open Lexical (isWord)

/-- The methods of a chain are identifiers, and its integers are those of literals. -/
def Writable (c : Chain) : Prop :=
  Step.allWritable c = true

/-- The same of each of a list. -/
def AllWritable (cs : List Chain) : Prop :=
  ∀ c ∈ cs, Writable c

variable {c d : Chain} {cs ds : List Chain} {m : String}

/-! ## Chains -/

theorem writable_nil : Writable [] :=
  rfl

theorem Writable.append (hc : Writable c) (hd : Writable d) : Writable (c ++ d) := by
  induction c with
  | nil => exact hd
  | cons s ss ih =>
    rw [Writable, Step.allWritable, Bool.and_eq_true] at hc
    rw [Writable, List.cons_append, Step.allWritable, Bool.and_eq_true]
    exact ⟨hc.1, ih hc.2⟩

theorem AllWritable.nil : AllWritable [] :=
  nofun

theorem AllWritable.cons (hc : Writable c) (hcs : AllWritable cs) : AllWritable (c :: cs) :=
  List.forall_mem_cons.mpr ⟨hc, hcs⟩

theorem AllWritable.one (hc : Writable c) : AllWritable [c] :=
  .cons hc .nil

theorem AllWritable.append (hcs : AllWritable cs) (hds : AllWritable ds) : AllWritable (cs ++ ds) :=
  List.forall_mem_append.mpr ⟨hcs, hds⟩

theorem writable_call {args : List Arg} (hm : isWord m) (hargs : Arg.allWritable args) : Writable (call m args) := by
  rw [Writable, call, Step.allWritable, Step.isWritable, hm, hargs]
  rfl

theorem writable_group (h : AllWritable cs) (hm : isWord m = true := by decide) : Writable (group m cs) := by
  refine writable_call hm ?_
  induction cs with
  | nil => rfl
  | cons c cs ih =>
    rw [List.map_cons, Arg.allWritable, Arg.isWritable, h c List.mem_cons_self,
      ih fun d hd => h d (List.mem_cons_of_mem c hd)]
    rfl

theorem writable_keyword (m : String) (hm : isWord m = true := by decide) : Writable (keyword m) :=
  writable_call hm rfl

theorem writable_name (text : String) : Writable (name text) :=
  writable_call (by decide) rfl

theorem writable_op (text : String) : Writable (op text) :=
  writable_call (by decide) rfl

theorem writable_slot : Writable slot :=
  writable_keyword "Empty" (by decide)

theorem writable_listed (h : AllWritable cs) : Writable (listed cs) := by
  unfold listed
  split
  · exact writable_nil
  · exact h _ List.mem_cons_self
  · exact writable_group h (by decide)

theorem writable_nameChain (ns : List Ident) : Writable (nameChain ns) :=
  writable_listed (List.forall_mem_map.mpr fun n _ => writable_name n.name)

theorem allWritable_spreadLast (spread : Bool) (h : AllWritable cs) : AllWritable (spreadLast spread cs) := by
  unfold spreadLast
  split
  · rename_i last hlast
    exact .append (fun c hc => h c ((List.dropLast_sublist cs).subset hc))
      (.one (.append (h _ (List.mem_of_getLast? hlast)) (writable_op "...")))
  · exact h

/-! ## Parts without parts -/

theorem BasicLit.writable_synth (l : BasicLit) (pos : Pos) : Gives (l.synth pos) Writable := by
  unfold BasicLit.synth
  split
  · split
    · rename_i n hn
      obtain ⟨k, rfl, htext⟩ := decimal?_eq_some hn
      have hint : decimal? (toString (k : Int)) == some (k : Int) := by
        change decimal? (toString k) == _
        rw [htext, hn]
        exact beq_self_eq_true _
      refine gives_pure (writable_call (by decide) ?_)
      rw [Arg.allWritable, Arg.isWritable, hint]
      rfl
    · exact gives_pure (writable_name _)
  · exact gives_unsupported _ _
  all_goals exact gives_pure (writable_name _)

theorem BranchTok.writable_chain (t : BranchTok) : Writable t.chain := by
  cases t <;> exact writable_keyword _ (by decide)

theorem ChanDir.writable_chain (d : ChanDir) : Writable d.chain := by
  cases d with
  | both => exact writable_keyword "Chan" (by decide)
  | send => exact (writable_keyword "Chan" (by decide)).append (writable_op "<-")
  | recv => exact (writable_op "<-").append (writable_keyword "Chan" (by decide))

/-! ## Expressions, statements and declarations -/

section
variable (s : Scope)

mutual

theorem Expr.writable_synth : ∀ e : Expr, Gives (e.synth s) Writable
  | .mk k p => (ExprKind.writable_synth p k).nested s p

theorem ExprKind.writable_synth (pos : Pos) : ∀ k : ExprKind, Gives (k.synth s pos) Writable
  | .bad _ => gives_unsupported _ _
  | .ident n => gives_pure (writable_name n)
  | .ellipsis none => gives_pure (writable_op "...")
  | .ellipsis (some t) => (Expr.writable_synth t).map fun _ ht => (writable_op "...").append ht
  | .basicLit l => l.writable_synth pos
  | .funcLit t b =>
    (FuncType.writable_signature t).bind fun _ ht => (Block.writable_synth b).map fun _ hb =>
      ((writable_keyword "Func").append ht).append hb
  | .compositeLit none es =>
    gives_pure_bind <| (Expr.writable_synthList es).map fun _ hes => writable_nil.append (writable_group hes)
  | .compositeLit (some t) es =>
    (Expr.writable_synth t).bind fun _ ht => (Expr.writable_synthList es).map fun _ hes => ht.append (writable_group hes)
  | .paren x => (Expr.writable_synth x).map fun _ hx => writable_group (.one hx)
  | .selector x sel => by
    have hx := Expr.writable_synth x
    rw [ExprKind.synth_selector]
    split
    · exact gives_pure (writable_call (by decide) rfl)
    · exact hx.map fun _ hx => hx.append (writable_call (by decide) rfl)
  | .index x i =>
    (Expr.writable_synth i).bind fun _ hi => (Expr.writable_synth x).map fun _ hx => hx.append (writable_group (.one hi))
  | .slice x low high max false =>
    (Expr.writable_synthSlot low).bind fun _ hl => (Expr.writable_synthSlot high).bind fun _ hh =>
      gives_pure_bind <| (Expr.writable_synth x).map fun _ hx => hx.append (writable_group (.cons hl (.one hh)))
  | .slice x low high max true =>
    (Expr.writable_synthSlot low).bind fun _ hl => (Expr.writable_synthSlot high).bind fun _ hh =>
      (Expr.writable_synthSlot max).bind fun _ hm => gives_pure_bind <|
        (Expr.writable_synth x).map fun _ hx => hx.append (writable_group (.cons hl (.cons hh (.one hm))))
  | .typeAssert x none =>
    gives_pure_bind <| (Expr.writable_synth x).map fun _ hx => hx.append (writable_group (.one (writable_keyword "Type")))
  | .typeAssert x (some t) =>
    (Expr.writable_synth t).bind fun _ ht => (Expr.writable_synth x).map fun _ hx => hx.append (writable_group (.one ht))
  | .call f as spread =>
    (Expr.writable_synthList as).bind fun _ has => (Expr.writable_synth f).map fun _ hf =>
      hf.append (writable_group (allWritable_spreadLast spread has))
  | .star x => (Expr.writable_synth x).map fun _ hx => (writable_op "*").append hx
  | .unary o x => (Expr.writable_synth x).map fun _ hx => (writable_op o).append hx
  | .binary x o y =>
    (Expr.writable_synth x).bind fun _ hx => (Expr.writable_synth y).map fun _ hy => (hx.append (writable_op o)).append hy
  | .keyValue k v =>
    (Expr.writable_synth k).bind fun _ hk => (Expr.writable_synth v).map fun _ hv => (hk.append (writable_op ":")).append hv
  | .arrayType none t => (Expr.writable_synth t).map fun _ ht => (writable_keyword "Index").append ht
  | .arrayType (some n) t => by
    have hn := Expr.writable_synth n
    have ht := Expr.writable_synth t
    by_cases hdots : ∃ p, n = .mk (.ellipsis none) p
    · obtain ⟨p, rfl⟩ := hdots
      exact ht.map fun _ ht => (writable_group (.one (writable_op "..."))).append ht
    · rw [ExprKind.synth_arrayType s pos hdots]
      exact hn.bind fun _ hn => ht.map fun _ ht => (writable_group (.one hn)).append ht
  | .structType fs => (Field.writable_synthList fs).map fun _ hfs => writable_group hfs
  | .funcType t => (FuncType.writable_signature t).map fun _ ht => (writable_keyword "Func").append ht
  | .interfaceType ms => (Field.writable_synthElements ms).map fun _ hms => writable_group hms
  | .mapType k v =>
    (Expr.writable_synth k).bind fun _ hk => (Expr.writable_synth v).map fun _ hv => (writable_group (.one hk)).append hv
  | .chanType d v => (Expr.writable_synth v).map fun _ hv => d.writable_chain.append hv

theorem Expr.writable_synthList : ∀ xs : List Expr, Gives (Expr.synthList s xs) AllWritable
  | [] => gives_pure .nil
  | x :: xs => (Expr.writable_synth x).bind fun _ hx => (Expr.writable_synthList xs).map fun _ hxs => .cons hx hxs

theorem Expr.writable_synthSlot : ∀ x : Option Expr, Gives (Expr.synthSlot s x) Writable
  | none => gives_pure writable_slot
  | some x => Expr.writable_synth x

theorem Expr.writable_synthPresent : ∀ x : Option Expr, Gives (Expr.synthPresent s x) AllWritable
  | none => gives_pure .nil
  | some x => (Expr.writable_synth x).map fun _ hx => .one hx

theorem FuncType.writable_signature : ∀ t : FuncType, Gives (t.signature s) Writable
  | .mk ps none => (Field.writable_synthList ps).map fun _ hps => writable_group hps
  | .mk ps (some [.mk [] t _]) =>
    (Field.writable_synthList ps).bind fun _ hps => (Expr.writable_synth t).map fun _ ht => (writable_group hps).append ht
  | .mk ps (some []) =>
    (Field.writable_synthList ps).bind fun _ hps => (Field.writable_synthList []).map fun _ hrs =>
      (writable_group hps).append (writable_group hrs)
  | .mk ps (some (.mk (n :: ns) t tag :: rs)) =>
    (Field.writable_synthList ps).bind fun _ hps => (Field.writable_synthList (.mk (n :: ns) t tag :: rs)).map fun _ hrs =>
      (writable_group hps).append (writable_group hrs)
  | .mk ps (some (.mk [] t tag :: f :: rs)) =>
    (Field.writable_synthList ps).bind fun _ hps => (Field.writable_synthList (.mk [] t tag :: f :: rs)).map fun _ hrs =>
      (writable_group hps).append (writable_group hrs)

theorem Field.writable_synth : ∀ f : Field, Gives (f.synth s) Writable
  | .mk ns t none => (Expr.writable_synth t).map fun _ ht => (writable_nameChain ns).append ht
  | .mk ns t (some l) =>
    (Expr.writable_synth t).map fun _ ht => ((writable_nameChain ns).append ht).append (writable_name l.value)

theorem Field.writable_synthList : ∀ fs : List Field, Gives (Field.synthList s fs) AllWritable
  | [] => gives_pure .nil
  | f :: fs => (Field.writable_synth f).bind fun _ hf => (Field.writable_synthList fs).map fun _ hfs => .cons hf hfs

theorem Field.writable_synthElements : ∀ fs : List Field, Gives (Field.synthElements s fs) AllWritable
  | [] => gives_pure .nil
  | .mk [] t tag :: fs =>
    (Expr.writable_synth t).bind fun _ ht => (Field.writable_synthElements fs).map fun _ hfs => .cons ht hfs
  | .mk [n] (.mk k p) tag :: fs => by
    have hfs := Field.writable_synthElements fs
    cases k with
    | funcType t =>
      exact (FuncType.writable_signature t).bind fun _ ht => hfs.map fun _ hfs => .cons ((writable_name n.name).append ht) hfs
    | _ => exact gives_unsupported _ _
  | .mk (_ :: _ :: _) _ _ :: _ => gives_unsupported _ _

theorem Block.writable_synth : ∀ b : Block, Gives (b.synth s) Writable
  | .mk ss _ => (Stmt.writable_synthList ss).map fun _ hss => writable_group hss

theorem Stmt.writable_synth : ∀ x : Stmt, Gives (x.synth s) Writable
  | .mk k p => (StmtKind.writable_synth p k).nested s p

theorem Stmt.writable_synthList : ∀ ss : List Stmt, Gives (Stmt.synthList s ss) AllWritable
  | [] => gives_pure .nil
  | x :: xs => (Stmt.writable_synth x).bind fun _ hx => (Stmt.writable_synthList xs).map fun _ hxs => .cons hx hxs

theorem Stmt.writable_synthSlot : ∀ x : Option Stmt, Gives (Stmt.synthSlot s x) Writable
  | none => gives_pure writable_slot
  | some x => Stmt.writable_synth x

theorem Stmt.writable_synthInit : ∀ x : Option Stmt, Gives (Stmt.synthInit s x) AllWritable
  | none => gives_pure .nil
  | some x => (Stmt.writable_synth x).map fun _ hx => .one hx

theorem StmtKind.writable_synth (pos : Pos) : ∀ k : StmtKind, Gives (k.synth s pos) Writable
  | .bad _ => gives_unsupported _ _
  | .decl d => GenDecl.writable_synth d
  | .empty => gives_pure writable_slot
  | .labeled l x => (Stmt.writable_synth x).map fun _ hx =>
      (((writable_name l.name).append (writable_op ":")).append (writable_keyword "Line")).append hx
  | .expr x => Expr.writable_synth x
  | .send c v =>
    (Expr.writable_synth c).bind fun _ hc => (Expr.writable_synth v).map fun _ hv => (hc.append (writable_op "<-")).append hv
  | .incDec x t => (Expr.writable_synth x).map fun _ hx => hx.append (writable_op t.text)
  | .assign l t r =>
    (Expr.writable_synthList l).bind fun _ hl => (Expr.writable_synthList r).map fun _ hr =>
      ((writable_listed hl).append (writable_op t)).append (writable_listed hr)
  | .goStmt c => (Expr.writable_synth c).map fun _ hc => (writable_keyword "Go").append hc
  | .deferStmt c => (Expr.writable_synth c).map fun _ hc => (writable_keyword "Defer").append hc
  | .returnStmt rs => (Expr.writable_synthList rs).map fun _ hrs => (writable_keyword "Return").append (writable_listed hrs)
  | .branch t none => gives_pure t.writable_chain
  | .branch t (some l) => gives_pure (t.writable_chain.append (writable_name l.name))
  | .block b => Block.writable_synth b
  | .ifStmt i c b none =>
    (Stmt.writable_synthInit i).bind fun _ hi => (Expr.writable_synth c).bind fun _ hc =>
      (Block.writable_synth b).map fun _ hb => (writable_group (hi.append (.one hc))).append hb
  | .ifStmt i c b (some e) =>
    (Stmt.writable_synthInit i).bind fun _ hi => (Expr.writable_synth c).bind fun _ hc =>
      (Block.writable_synth b).bind fun _ hb => (Stmt.writable_synth e).map fun _ he =>
        (((writable_group (hi.append (.one hc))).append hb).append (writable_keyword "Else")).append he
  | .caseClause [] b =>
    gives_pure_bind <| (Stmt.writable_synthList b).map fun _ hb => (writable_keyword "Default").append (writable_group hb)
  | .caseClause (x :: xs) b =>
    (Expr.writable_synth x).bind fun _ hx => (Expr.writable_synthList xs).bind fun _ hxs =>
      gives_pure_bind <| (Stmt.writable_synthList b).map fun _ hb =>
        (writable_group (.cons hx hxs)).append (writable_group hb)
  | .switchStmt i none b =>
    (Stmt.writable_synthInit i).bind fun header hi => gives_pure_bind <| (Block.writable_synth b).map fun _ hb => by
      refine Writable.append (writable_group ?_) hb
      split
      · exact .nil
      · exact hi.append (.one writable_slot)
  | .switchStmt i (some t) b =>
    (Stmt.writable_synthInit i).bind fun _ hi => (Expr.writable_synth t).bind fun _ ht =>
      gives_pure_bind <| (Block.writable_synth b).map fun _ hb => (writable_group (hi.append (.one ht))).append hb
  | .typeSwitch i a b =>
    (Stmt.writable_synthInit i).bind fun _ hi => (Stmt.writable_synth a).bind fun _ ha =>
      (Block.writable_synth b).map fun _ hb => (writable_group (hi.append (.one ha))).append hb
  | .commClause none b =>
    gives_pure_bind <| (Stmt.writable_synthList b).map fun _ hb => (writable_keyword "Default").append (writable_group hb)
  | .commClause (some x) b =>
    (Stmt.writable_synth x).bind fun _ hx => gives_pure_bind <|
      (Stmt.writable_synthList b).map fun _ hb => (writable_group (.one hx)).append (writable_group hb)
  | .selectStmt b => (Block.writable_synth b).map fun _ hb => (writable_keyword "Select").append hb
  | .forStmt none none none b =>
    gives_pure_bind <| (Block.writable_synth b).map fun _ hb => (writable_group .nil).append hb
  | .forStmt none (some c) none b =>
    (Expr.writable_synth c).bind fun _ hc => gives_pure_bind <|
      (Block.writable_synth b).map fun _ hb => (writable_group (.one hc)).append hb
  | .forStmt none c (some p) b =>
    gives_pure_bind <| (Expr.writable_synthSlot c).bind fun _ hc => (Stmt.writable_synth p).bind fun _ hp =>
      (Block.writable_synth b).map fun _ hb => (writable_group (.cons writable_slot (.cons hc (.one hp)))).append hb
  | .forStmt (some i) c p b =>
    (Stmt.writable_synth i).bind fun _ hi => (Expr.writable_synthSlot c).bind fun _ hc =>
      (Stmt.writable_synthSlot p).bind fun _ hp => (Block.writable_synth b).map fun _ hb =>
        (writable_group (.cons hi (.cons hc (.one hp)))).append hb
  | .rangeStmt _ _ none x b =>
    (Expr.writable_synth x).bind fun _ hx => gives_pure_bind <| (Block.writable_synth b).map fun _ hb =>
      (writable_group (.one ((writable_nil.append (writable_keyword "Range")).append hx))).append hb
  | .rangeStmt k v (some t) x b =>
    (Expr.writable_synth x).bind fun _ hx => (Expr.writable_synthPresent k).bind fun _ hk =>
      (Expr.writable_synthPresent v).bind fun _ hv => gives_pure_bind <| (Block.writable_synth b).map fun _ hb =>
        (writable_group (.one ((((writable_listed (hk.append hv)).append (writable_op t)).append
          (writable_keyword "Range")).append hx))).append hb

theorem GenDecl.writable_synth : ∀ d : GenDecl, Gives (d.synth s) Writable
  | .mk tok pos grouped specs => by
    have hspecs := Spec.writable_synthList pos specs
    have hrest {head : Chain} (hhead : Writable head) :
        Gives (Spec.synthList s pos specs >>= fun cs => match grouped, cs with
          | false, [c] => pure (head ++ c)
          | _, cs => pure (head ++ group "Defs" cs)) Writable := by
      refine hspecs.bind fun cs hcs => ?_
      split
      · exact gives_pure (hhead.append (hcs _ List.mem_cons_self))
      · exact gives_pure (hhead.append (writable_group hcs))
    refine Gives.nested s pos ?_
    cases tok with
    | importTok => exact (gives_unsupported (P := fun _ => False) _ _).bind fun _ hfalse => hfalse.elim
    | _ => exact gives_pure_bind (hrest (writable_keyword _))

theorem Spec.writable_synth (pos : Pos) : ∀ x : Spec, Gives (x.synth s pos) Writable
  | .imported _ => gives_unsupported _ _
  | .value ns none [] => gives_pure_bind <| gives_pure ((writable_nameChain ns).append writable_nil)
  | .value ns (some t) [] => (Expr.writable_synth t).map fun _ ht => (writable_nameChain ns).append ht
  | .value ns none (v :: vs) =>
    gives_pure_bind <| (Expr.writable_synth v).bind fun _ hv => (Expr.writable_synthList vs).map fun _ hvs =>
      (((writable_nameChain ns).append writable_nil).append (writable_op "=")).append (writable_listed (.cons hv hvs))
  | .value ns (some t) (v :: vs) =>
    (Expr.writable_synth t).bind fun _ ht => (Expr.writable_synth v).bind fun _ hv =>
      (Expr.writable_synthList vs).map fun _ hvs =>
        (((writable_nameChain ns).append ht).append (writable_op "=")).append (writable_listed (.cons hv hvs))
  | .type n false t => (Expr.writable_synth t).map fun _ ht => ((writable_name n.name).append writable_nil).append ht
  | .type n true t => (Expr.writable_synth t).map fun _ ht => ((writable_name n.name).append (writable_op "=")).append ht

theorem Spec.writable_synthList (pos : Pos) : ∀ xs : List Spec, Gives (Spec.synthList s pos xs) AllWritable
  | [] => gives_pure .nil
  | x :: xs => (Spec.writable_synth pos x).bind fun _ hx => (Spec.writable_synthList pos xs).map fun _ hxs => .cons hx hxs

end

theorem FuncDecl.writable_synth : ∀ d : FuncDecl, Gives (d.synth s) Writable
  | ⟨none, n, t, none, pos⟩ =>
    Gives.nested s pos <| gives_pure_bind <| (FuncType.writable_signature s t).bind fun _ ht => gives_pure_bind <|
      gives_pure (((((writable_keyword "Func").append writable_nil).append (writable_name n.name)).append ht).append
        writable_nil)
  | ⟨none, n, t, some b, pos⟩ =>
    Gives.nested s pos <| gives_pure_bind <| (FuncType.writable_signature s t).bind fun _ ht =>
      (Block.writable_synth s b).map fun _ hb =>
        ((((writable_keyword "Func").append writable_nil).append (writable_name n.name)).append ht).append hb
  | ⟨some fs, n, t, none, pos⟩ =>
    Gives.nested s pos <| (Field.writable_synthList s fs).bind fun _ hfs => gives_pure_bind <|
      (FuncType.writable_signature s t).bind fun _ ht => gives_pure_bind <|
        gives_pure (((((writable_keyword "Func").append (writable_group hfs)).append (writable_name n.name)).append ht).append
          writable_nil)
  | ⟨some fs, n, t, some b, pos⟩ =>
    Gives.nested s pos <| (Field.writable_synthList s fs).bind fun _ hfs => gives_pure_bind <|
      (FuncType.writable_signature s t).bind fun _ ht => (Block.writable_synth s b).map fun _ hb =>
        ((((writable_keyword "Func").append (writable_group hfs)).append (writable_name n.name)).append ht).append hb

theorem Decl.writable_synth (d : Decl) : Gives (d.synth s) fun g => ∀ u ∈ g, Writable u.chain := by
  unfold Decl.synth
  split
  · exact gives_pure (by simp)
  · exact (GenDecl.writable_synth s _).map fun c hc u hu => by cases hu; exact hc
  · exact (FuncDecl.writable_synth s _).map fun c hc u hu => by cases hu; exact hc

end

end GoRebuild
