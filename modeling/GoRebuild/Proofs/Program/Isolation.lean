import GoRebuild.Program.Assemble
import GoRebuild.Proofs.Nesting.Synthesis
import Mathlib.Data.List.FinRange
import Mathlib.Data.List.Forall2

/-!
# Declarations do not see each other

One counter serves all declarations in turn, or each has its own and they finish in any order. Since
every rule gives the counter back (`GoRebuild.Proofs.Nesting.Synthesis`), nobody can tell the difference.

* `Request`, `Request.follows_run` : what can be asked of synthesis, which follows an outline, too;
* `served` : the answers of one counter to many requests;
* `synthInTurn_answer` : declarations in turn answer as declarations apart;
* `synthArriving`, `assembleArriving` : each declaration on its own, done in some order; the first failure
  to arrive is the answer, else each generator stands where its declaration does;
* `synthesis_isolated` : the two ways to assemble agree.
-/

namespace GoRebuild
open Synth

/-! ## Requests -/

/-- What can be asked of synthesis. -/
inductive Request where
  | expr (x : Expr)
  | type (t : Expr)
  | exprs (xs : List Expr)
  | listed (xs : List Expr)
  | signature (t : FuncType)
  | stmt (x : Stmt)
  | block (b : Block)
  | gen (d : GenDecl)
  | func (d : FuncDecl)
  | decl (d : Decl)

/-- What synthesis gives. -/
inductive Answer where
  | chain (c : Chain)
  | chains (cs : List Chain)
  | generator (g : Option Generator)

/-- The computation that a request starts. -/
def Request.run (s : Scope) : Request → Synth Answer
  | expr x => return .chain (← x.synth s)
  | type t => return .chain (← t.synth s)
  | exprs xs => return .chains (← Expr.synthList s xs)
  | listed xs => return .chain (← Expr.synthListed s xs)
  | signature t => return .chain (← t.signature s)
  | stmt x => return .chain (← x.synth s)
  | block b => return .chain (← b.synth s)
  | gen d => return .chain (← d.synth s)
  | func d => return .chain (← d.synth s)
  | decl d => return .generator (← d.synth s)

/-- The answers to requests one after the other, with one counter that failures do not reset. -/
def serve (s : Scope) : List Request → StateM Nat (List (Except SynthError Answer))
  | [] => pure []
  | r :: rs => do
    let a ← (r.run s).run
    let as ← serve s rs
    pure (a :: as)

/-- The answers to requests on a new counter. -/
def served (s : Scope) (rs : List Request) : List (Except SynthError Answer) :=
  ((serve s rs).run 0).1

/-- What synthesis comes across in a request. -/
def Request.outline (s : Scope) : Request → Outline Pos
  | expr x => x.outline s
  | type t => t.outline s
  | exprs xs => Expr.outlineList s xs
  | listed xs => Expr.outlineList s xs
  | signature t => t.outline s
  | stmt x => x.outline s
  | block b => b.outline s
  | gen d => d.outline s
  | func d => d.outline s
  | decl d => d.outline s

theorem Request.follows_run (s : Scope) (r : Request) : Follows s (r.run s) (r.outline s) := by
  cases r with
  | expr x => exact (x.follows_synth s).map _
  | type t => exact (t.follows_synth s).map _
  | exprs xs => exact (Expr.follows_synthList s xs).map _
  | listed xs => exact (Expr.follows_synthListed s xs).map _
  | signature t => exact (t.follows_signature s).map _
  | stmt x => exact (x.follows_synth s).map _
  | block b => exact (b.follows_synth s).map _
  | gen d => exact (d.follows_synth s).map _
  | func d => exact (d.follows_synth s).map _
  | decl d => exact (d.follows_synth s).map _

theorem served_eq_map (s : Scope) (rs : List Request) :
    served s rs = rs.map fun r => (r.run s).answer := by
  unfold served
  induction rs with
  | nil => rfl
  | cons r rs ih =>
    -- the first request leaves the counter at zero for the others
    have hr := (r.follows_run s).balanced.run_eq_answer
    change (((r.run s).run.run 0).1 :: ((serve s rs).run ((r.run s).run.run 0).2).1) = _
    rw [hr, List.map_cons, ← ih]

/-! ## Declarations in turn and apart -/

theorem balanced_synthInTurn (s : Scope) : ∀ ds : List Decl, Balanced (synthInTurn s ds)
  | [] => balanced_pure _
  | d :: ds => (d.follows_synth s).balanced.bind fun _ => (balanced_synthInTurn s ds).map _

theorem answer_bind {α β : Type} {act : Synth α} (h : Balanced act) (f : α → Synth β) :
    (act >>= f).answer = act.answer >>= fun a => (f a).answer := by
  have hrun := run_bind act f 0
  rw [h.run_eq_answer] at hrun
  unfold answer at hrun ⊢
  rw [hrun]
  cases (act.run.run 0).1 <;> rfl

/-- One counter for all declarations answers as a new counter for each. -/
theorem synthInTurn_answer (s : Scope) : ∀ ds : List Decl, (synthInTurn s ds).answer = synthApart s ds
  | [] => rfl
  | d :: ds => by
    rw [synthInTurn, synthApart, answer_bind (d.follows_synth s).balanced]
    congr 1
    funext g
    rw [answer_bind (balanced_synthInTurn s ds), synthInTurn_answer s ds]
    rfl

theorem synthApart_eq_ok_iff {s : Scope} {ds : List Decl} {gs : List (Option Generator)} :
    synthApart s ds = .ok gs ↔ List.Forall₂ (fun d g => (d.synth s).answer = .ok g) ds gs := by
  induction ds generalizing gs with
  | nil => simp [synthApart, pure, Except.pure, eq_comm]
  | cons d ds ih =>
    rw [synthApart]
    cases hd : (d.synth s).answer with
    | error e => simp [bind, Except.bind, List.forall₂_cons_left_iff, hd]
    | ok g =>
      cases hds : synthApart s ds with
      | error e =>
        simp [bind, Except.bind, List.forall₂_cons_left_iff, hd, ← ih, hds]
      | ok gs' =>
        simp only [bind, Except.bind, pure, Except.pure, Except.ok.injEq, List.forall₂_cons_left_iff, hd,
          ← ih, hds]
        constructor
        · rintro rfl
          exact ⟨g, gs', rfl, rfl, rfl⟩
        · rintro ⟨_, _, rfl, rfl, rfl⟩
          rfl

/-- The first declaration that fails on its own, all before it being fine, fails with `e`. -/
def FirstFailure (s : Scope) (ds : List Decl) (e : SynthError) : Prop :=
  ∃ before d after, ds = before ++ d :: after ∧ (∀ b ∈ before, ∃ g, (b.synth s).answer = .ok g) ∧
    (d.synth s).answer = .error e

theorem firstFailure_of_synthApart {s : Scope} {ds : List Decl} {e : SynthError}
    (h : synthApart s ds = .error e) : FirstFailure s ds e := by
  induction ds with
  | nil => cases h
  | cons d ds ih =>
    rw [synthApart] at h
    cases hd : (d.synth s).answer with
    | error e' =>
      rw [hd] at h
      cases h
      exact ⟨[], d, ds, rfl, by simp, hd⟩
    | ok g =>
      cases hds : synthApart s ds with
      | ok gs => rw [hd, hds] at h; cases h
      | error e' =>
        rw [hd, hds] at h
        cases h
        obtain ⟨before, d', after, rfl, hbefore, hd'⟩ := ih hds
        refine ⟨d :: before, d', after, rfl, ?_, hd'⟩
        rintro b (_ | ⟨_, hb⟩)
        · exact ⟨g, hd⟩
        · exact hbefore b hb

/-! ## Declarations that finish in any order -/

section Arrival
variable {ε α : Type} {n : Nat} (answer : Fin n → Except ε α)

/-- Puts what arrives into its slot, until a failure arrives. -/
def arrive : List (Fin n) → (Fin n → Option α) → Except ε (Fin n → Option α)
  | [], slots => .ok slots
  | i :: order, slots =>
    match answer i with
    | .ok a => arrive order fun j => if j = i then some a else slots j
    | .error e => .error e

theorem arrive_of_ok {g : Fin n → α} : ∀ (order : List (Fin n)) (slots : Fin n → Option α),
    (∀ i ∈ order, answer i = .ok (g i)) →
      arrive answer order slots = .ok fun i => if i ∈ order then some (g i) else slots i
  | [], _, _ => by simp [arrive]
  | i :: order, slots, h => by
    rw [arrive, h i (by simp)]
    change arrive answer order _ = _
    rw [arrive_of_ok order _ fun j hj => h j (by simp [hj])]
    congr 1
    funext j
    by_cases hji : j = i
    · simp [hji]
    · simp [hji]

theorem ok_of_arrive : ∀ (order : List (Fin n)) (slots filled : Fin n → Option α),
    arrive answer order slots = .ok filled → ∀ i ∈ order, ∃ a, answer i = .ok a
  | [], _, _, _ => by simp
  | i :: order, slots, filled, h => by
    rw [arrive] at h
    cases hi : answer i with
    | error e => rw [hi] at h; cases h
    | ok a =>
      rw [hi] at h
      rintro j (_ | ⟨_, hj⟩)
      · exact ⟨a, hi⟩
      · exact ok_of_arrive order _ _ h j hj

end Arrival

/-- The generators of declarations, each on its own, which are done in some order. -/
def synthArriving (s : Scope) (ds : List Decl) (order : List (Fin ds.length)) :
    Except SynthError (List (Option Generator)) := do
  let slots ← arrive (fun i => ((ds.get i).synth s).answer) order fun _ => none
  return (List.finRange ds.length).filterMap slots

/-- If every declaration finishes once, the order in which they do makes no difference to success. -/
theorem synthArriving_eq_ok_iff {s : Scope} {ds : List Decl} {order : List (Fin ds.length)}
    (horder : order.Perm (List.finRange ds.length)) {gs : List (Option Generator)} :
    synthArriving s ds order = .ok gs ↔ synthApart s ds = .ok gs := by
  have hmem (i : Fin ds.length) : i ∈ order := horder.mem_iff.mpr (List.mem_finRange i)
  have hgs (gs : List (Option Generator)) (h : synthApart s ds = .ok gs) :
      synthArriving s ds order = .ok gs := by
    rw [synthApart_eq_ok_iff, List.forall₂_iff_get] at h
    obtain ⟨hlen, hget⟩ := h
    unfold synthArriving
    rw [arrive_of_ok (g := fun i => gs.get (i.cast hlen)) _ order _ fun i _ => hget i i.isLt (hlen ▸ i.isLt)]
    simp only [hmem, if_true, bind, Except.bind, pure, Except.pure]
    congr 1
    refine List.ext_getElem (by simp [hlen]) fun i hi hi' => ?_
    simp
  constructor
  · intro h
    cases happart : synthApart s ds with
    | ok gs' => rw [← h, hgs gs' happart]
    | error e =>
      obtain ⟨before, d, after, hds, -, hd⟩ := firstFailure_of_synthApart happart
      unfold synthArriving at h
      cases hslots : arrive (fun i => ((ds.get i).synth s).answer) order fun _ => none with
      | error e => rw [hslots] at h; cases h
      | ok slots =>
        have hlt : before.length < ds.length := by simp [hds]
        obtain ⟨g, hg⟩ := ok_of_arrive _ order _ _ hslots ⟨before.length, hlt⟩ (hmem _)
        have hget : ds.get ⟨before.length, hlt⟩ = d := by simp [hds]
        rw [hget, hd] at hg
        cases hg
  · exact hgs gs

/-! ## Assembling -/

/-- The program of a file whose generators are found in some way. -/
def assembleBy (units : Scope → Except SynthError (List (Option Generator))) (file : File) (o : Options) :
    Except SynthError Program := do
  if Text.isBlankText o.package then throw .emptyProgramName
  let table ← SymbolTable.build file.imports
  let gs ← units ⟨table, o.limit⟩
  return {
    package := o.package
    name := file.package.name
    anonymous := table.anonymous
    aliases := table.explicit
    units := renamed (gs.filterMap id)
    entryPoint := o.entryPoint }

/-- The program of a file whose declarations are done apart and finish in some order. -/
def assembleArriving (file : File) (o : Options) (order : List (Fin file.decls.length)) :
    Except SynthError Program :=
  assembleBy (fun s => synthArriving s file.decls order) file o

theorem assemble_eq_assembleBy (file : File) (o : Options) :
    assemble file o = assembleBy (fun s => synthApart s file.decls) file o := by
  unfold assemble assembleBy
  simp only [synthInTurn_answer, ite_self]

theorem assembleBy_eq_ok_iff {units : Scope → Except SynthError (List (Option Generator))} {file : File}
    {o : Options} {p : Program} :
    assembleBy units file o = .ok p ↔
      ¬ Text.isBlankText o.package ∧ ∃ table gs, SymbolTable.build file.imports = .ok table ∧
        units ⟨table, o.limit⟩ = .ok gs ∧
        p = ⟨o.package, file.package.name, table.anonymous, table.explicit, renamed (gs.filterMap id),
          o.entryPoint⟩ := by
  unfold assembleBy
  cases hblank : Text.isBlankText o.package with
  | true => simp [bind, Except.bind, throw, throwThe, MonadExceptOf.throw]
  | false =>
    cases htable : SymbolTable.build file.imports with
    | error e => simp [bind, Except.bind]
    | ok table =>
      cases hunits : units ⟨table, o.limit⟩ with
      | error e => simp [bind, Except.bind, hunits]
      | ok gs => simp [bind, Except.bind, pure, Except.pure, hunits, eq_comm]

/-- What a generator returns and where its declaration stands, whatever its name. -/
def Generator.content (g : Generator) : Chain × Pos :=
  (g.chain, g.pos)

theorem map_content_renamedFrom (taken : List String) (gs : List Generator) :
    (renamedFrom taken gs).map Generator.content = gs.map Generator.content := by
  induction gs generalizing taken with
  | nil => rfl
  | cons g gs ih =>
    have hg : (g.rename taken).content = g.content := by
      unfold Generator.rename
      split <;> rfl
    rw [renamedFrom, List.map_cons, List.map_cons, ih, hg]

theorem error_of_assembleBy {units : Scope → Except SynthError (List (Option Generator))} {file : File}
    {o : Options} {e : SynthError} (h : assembleBy units file o = .error e) :
    (Text.isBlankText o.package ∧ e = .emptyProgramName) ∨ SymbolTable.build file.imports = .error e ∨
      ∃ table, SymbolTable.build file.imports = .ok table ∧ units ⟨table, o.limit⟩ = .error e := by
  unfold assembleBy at h
  cases hblank : Text.isBlankText o.package with
  | true =>
    rw [hblank] at h
    cases h
    exact .inl ⟨rfl, rfl⟩
  | false =>
    rw [hblank] at h
    cases htable : SymbolTable.build file.imports with
    | error e' =>
      rw [htable] at h
      cases h
      exact .inr (.inl rfl)
    | ok table =>
      rw [htable] at h
      cases hunits : units ⟨table, o.limit⟩ with
      | error e' =>
        simp only [bind, Except.bind, hunits] at h
        cases h
        exact .inr (.inr ⟨table, rfl, hunits⟩)
      | ok gs => simp [bind, Except.bind, pure, Except.pure, hunits] at h

/-- **Synthesis keeps nothing from one request to the next.** Every request leaves the counter where it
was, so that on one counter each is answered as on a new one, whatever failed before it. Hence a file is
assembled alike with one counter for its declarations and with one for each, in whatever order these are
done: both fail or both give the program whose generators stand as the declarations do, and with one
counter the failure is that of the first declaration that fails on its own. -/
theorem synthesis_isolated :
    (∀ (s : Scope) (r : Request) (depth : Nat), ((r.run s).run.run depth).2 = depth) ∧
    (∀ (s : Scope) (rs : List Request), served s rs = rs.map fun r => (r.run s).answer) ∧
    ∀ (file : File) (o : Options),
      (∀ order : List (Fin file.decls.length), order.Perm (List.finRange file.decls.length) →
        ∀ p, assembleArriving file o order = .ok p ↔ assemble file { o with parallel := false } = .ok p) ∧
      (assembleArriving file o (List.finRange file.decls.length)).toOption =
        (assemble file { o with parallel := true }).toOption ∧
      (∀ p, assemble file { o with parallel := false } = .ok p →
        ∃ table gs, SymbolTable.build file.imports = .ok table ∧
          List.Forall₂ (fun d g => (d.synth ⟨table, o.limit⟩).answer = .ok g) file.decls gs ∧
          p.units.map Generator.content = (gs.filterMap id).map Generator.content) ∧
      ∀ e, assemble file { o with parallel := false } = .error e →
        (Text.isBlankText o.package ∧ e = .emptyProgramName) ∨ SymbolTable.build file.imports = .error e ∨
          ∃ table, SymbolTable.build file.imports = .ok table ∧ FirstFailure ⟨table, o.limit⟩ file.decls e := by
  have hagree (file : File) (o : Options) (parallel : Bool) (order : List (Fin file.decls.length))
      (horder : order.Perm (List.finRange file.decls.length)) (p : Program) :
      assembleArriving file o order = .ok p ↔ assemble file { o with parallel := parallel } = .ok p := by
    rw [assemble_eq_assembleBy, assembleArriving, assembleBy_eq_ok_iff, assembleBy_eq_ok_iff]
    simp only [synthArriving_eq_ok_iff horder]
  refine ⟨fun s r => (r.follows_run s).balanced, served_eq_map, fun file o => ⟨?_, ?_, ?_, ?_⟩⟩
  · exact fun order horder => hagree file o false order horder
  · refine Option.ext fun p => ?_
    have := hagree file o true _ (List.Perm.refl _) p
    cases harriving : assembleArriving file o (List.finRange file.decls.length) <;>
      cases hassemble : assemble file { o with parallel := true } <;>
      simp_all [Except.toOption]
  · intro p hp
    rw [assemble_eq_assembleBy, assembleBy_eq_ok_iff] at hp
    obtain ⟨-, table, gs, htable, hgs, rfl⟩ := hp
    exact ⟨table, gs, htable, synthApart_eq_ok_iff.mp hgs, map_content_renamedFrom [] _⟩
  · intro e he
    rw [assemble_eq_assembleBy] at he
    rcases error_of_assembleBy he with h | h | ⟨table, htable, h⟩
    · exact .inl h
    · exact .inr (.inl h)
    · exact .inr (.inr ⟨table, htable, firstFailure_of_synthApart h⟩)

/-- Two functions, the second done first, assemble as in source order. -/
theorem synthesis_isolated_reversed :
    let f (name : String) : Decl := .func ⟨none, ⟨name, .none⟩, .mk [] none, some (.mk [] .none), .none⟩
    let file : File := ⟨⟨"p", .none⟩, [], [f "a", f "b"]⟩
    [(1 : Fin 2), 0].Perm (List.finRange 2) ∧
      ∃ p, assembleArriving file {} [(1 : Fin 2), 0] = .ok p ∧
        assemble file { ({} : Options) with parallel := false } = .ok p := by
  intro f file
  have horder : [(1 : Fin 2), 0].Perm (List.finRange 2) := by decide
  exact ⟨horder, _, ((synthesis_isolated.2.2 file {}).1 [(1 : Fin 2), 0] horder _).mpr rfl, rfl⟩

end GoRebuild
