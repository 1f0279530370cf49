import GoRebuild.Program.Generate
import GoRebuild.Proofs.Reader.Limits
import GoRebuild.Proofs.Reader.Supported
import GoRebuild.Proofs.Synth.Carries

/-!
# What the limit decides about

* `SynthError.IsTooDeep`, `Failure.IsTooDeep` : the failures for the nesting;
* `assemble_of_le`, `generate_of_le` : what does not fail for the nesting comes to the same with a higher limit;
* `assemble_exists_limit`, `generate_exists_limit` : from some limit on nothing fails for the nesting;
* `limit_only_refuses` : a limit only ever turns answers into failures for the nesting, and a high one turns none.
-/

namespace GoRebuild

/-! ## Failures for the nesting -/

/-- Nodes of a tree are nested deeper than allowed. -/
def SynthError.IsTooDeep : SynthError → Prop
  | tooDeep _ _ => True
  | _ => False

/-- Reading or synthesis fails for the nesting. -/
def Failure.IsTooDeep : Failure → Prop
  | read e => e.IsTooDeep
  | synth e => e.IsTooDeep
  | render _ => False

theorem assembleBy_kept {P : SynthError → Prop} {l l' : Nat}
    {units units' : Scope → Except SynthError (List (Option Generator))}
    (h : ∀ table, KeptUnless P (units ⟨table, l⟩) (units' ⟨table, l'⟩)) (file : File) (o : Options) :
    KeptUnless P (assembleBy units file { o with limit := l }) (assembleBy units' file { o with limit := l' }) := by
  unfold assembleBy
  dsimp only
  split
  · exact .refl _
  · exact .bind (.refl _) fun table => (h table).bind fun _ => .refl _

/-! ## A higher limit -/

section
variable {l l' : Nat} (hl : l ≤ l')
include hl

theorem Decl.answer_of_le (table : SymbolTable) (d : Decl) :
    KeptUnless SynthError.IsTooDeep (d.synth ⟨table, l⟩).answer (d.synth ⟨table, l'⟩).answer := by
  have hcarried := d.carries_synth hl (.refl table _) 0
  unfold Synth.answer
  generalize (d.synth ⟨table, l⟩).run.run 0 = r at hcarried
  generalize (d.synth ⟨table, l'⟩).run.run 0 = r' at hcarried
  cases hcarried with
  | ok ha => exact .inr (congrArg Except.ok ha.symm)
  | unsupported => exact .refl _
  | tooDeep => exact .inl ⟨_, rfl, trivial⟩

theorem synthApart_of_le (table : SymbolTable) : ∀ ds : List Decl,
    KeptUnless SynthError.IsTooDeep (synthApart ⟨table, l⟩ ds) (synthApart ⟨table, l'⟩ ds)
  | [] => .refl _
  | d :: ds => (d.answer_of_le hl table).bind fun _ => (synthApart_of_le table ds).bind fun _ => .refl _

theorem assemble_of_le (file : File) (o : Options) :
    KeptUnless SynthError.IsTooDeep (assemble file { o with limit := l }) (assemble file { o with limit := l' }) := by
  rw [assemble_eq_assembleBy, assemble_eq_assembleBy]
  exact assembleBy_kept (fun table => synthApart_of_le hl table file.decls) file o

theorem generate_of_le (parser : SourceParser) (source : String) (o : Options) (layout : Layout) :
    KeptUnless Failure.IsTooDeep (generate parser { o with limit := l } layout source)
      (generate parser { o with limit := l' } layout source) :=
  ((File.read_of_le parser source hl).mapError (Q := Failure.IsTooDeep) (f := .read) fun _ he => he).bind fun f =>
    ((assemble_of_le hl f o).mapError (Q := Failure.IsTooDeep) (f := .synth) fun _ he => he).bind fun _ => .refl _

end

/-! ## A high limit -/

theorem exists_height (table : SymbolTable) (ds : List Decl) :
    ∃ bound, ∀ d ∈ ds, ∀ l, (d.outline ⟨table, l⟩).height ≤ bound := by
  induction ds with
  | nil => exact ⟨0, nofun⟩
  | cons d ds ih =>
    obtain ⟨bound, hbound⟩ := ih
    refine ⟨max (d.outline ⟨table, 0⟩).height bound, List.forall_mem_cons.mpr ⟨fun l => ?_, fun d hd l => ?_⟩⟩
    · rw [d.outline_limit table l 0]
      exact Nat.le_max_left _ _
    · exact Nat.le_trans (hbound d hd l) (Nat.le_max_right _ _)

theorem SynthError.IsImport.not_tooDeep {e : SynthError} (h : e.IsImport) : ¬e.IsTooDeep := by
  cases e <;> first | exact id | exact h.elim

theorem assemble_exists_limit (file : File) :
    ∃ bound, ∀ (o : Options) e, bound ≤ o.limit → assemble file o = .error e → ¬e.IsTooDeep := by
  obtain ⟨bound, hbound⟩ : ∃ bound, ∀ table, SymbolTable.build file.imports = .ok table →
      ∀ d ∈ file.decls, ∀ l, (d.outline ⟨table, l⟩).height ≤ bound := by
    cases SymbolTable.build file.imports with
    | error e => exact ⟨0, nofun⟩
    | ok table =>
      obtain ⟨bound, hbound⟩ := exists_height table file.decls
      exact ⟨bound, fun table' h => by cases h; exact hbound⟩
  refine ⟨bound, fun o e hlimit h => ?_⟩
  rw [assemble_eq_assembleBy] at h
  rcases error_of_assembleBy h with ⟨-, rfl⟩ | h | ⟨table, htable, h⟩
  · exact id
  · exact (SymbolTable.build_refuses h).not_tooDeep
  · obtain ⟨before, d, after, hdecls, -, hd⟩ := firstFailure_of_synthApart h
    have hheight := hbound table htable d (by rw [hdecls]; exact List.mem_append_right _ List.mem_cons_self) o.limit
    rcases (d.follows_synth ⟨table, o.limit⟩).failure hd with ⟨kind, pos, rfl, -⟩ | ⟨pos, -, hlt⟩
    · exact id
    · dsimp only at hlt
      omega

/-- A source that is read fails for the nesting where its tree does. -/
theorem not_tooDeep_of_generate {parser : SourceParser} {o : Options} {layout : Layout} {source : String} {e : Failure}
    (hread : ∀ e, File.read parser o.limit source = .error e → ¬e.IsTooDeep)
    (hassemble : ∀ f e, File.read parser o.limit source = .ok f → assemble f o = .error e → ¬e.IsTooDeep)
    (h : generate parser o layout source = .error e) : ¬e.IsTooDeep := by
  unfold generate at h
  cases hf : File.read parser o.limit source with
  | error e' =>
    rw [hf] at h
    cases h
    exact hread e' hf
  | ok f =>
    rw [hf] at h
    change ((assemble f o).mapError Failure.synth >>= fun p => (p.render layout).mapError Failure.render) = _ at h
    cases hp : assemble f o with
    | error e' =>
      rw [hp] at h
      cases h
      exact hassemble f e' hf hp
    | ok p =>
      rw [hp] at h
      change (p.render layout).mapError Failure.render = _ at h
      cases hr : p.render layout with
      | error e' =>
        rw [hr] at h
        cases h
        exact id
      | ok text =>
        rw [hr] at h
        cases h

section
variable (parser : SourceParser) (source : String)

theorem generate_exists_limit :
    ∃ bound, ∀ (o : Options) (layout : Layout) e, bound ≤ o.limit → generate parser o layout source = .error e →
      ¬e.IsTooDeep := by
  obtain ⟨n, hn⟩ := File.exists_limit parser source
  obtain ⟨m, hm⟩ : ∃ m, ∀ f, File.read parser n source = .ok f →
      ∀ (o : Options) e, m ≤ o.limit → assemble f o = .error e → ¬e.IsTooDeep := by
    cases File.read parser n source with
    | error e => exact ⟨0, nofun⟩
    | ok f =>
      obtain ⟨m, hm⟩ := assemble_exists_limit f
      exact ⟨m, fun f' h => by cases h; exact hm⟩
  refine ⟨max n m, fun o layout e hlimit => ?_⟩
  have hle : n ≤ o.limit := Nat.le_trans (Nat.le_max_left n m) hlimit
  refine not_tooDeep_of_generate (fun e => hn o.limit e hle) fun f e hf =>
    hm f ?_ o e (Nat.le_trans (Nat.le_max_right n m) hlimit)
  -- the tree is that which is read at the first limit
  rcases File.read_of_le parser source hle with ⟨e', he', hdeep⟩ | heq
  · exact absurd hdeep (hn n e' (Nat.le_refl n) he')
  · rw [← heq, hf]

/-- **A limit only ever refuses.** Whatever the package, the entry point and the layout, with one counter for all
declarations or with one for each: a source that does not fail for the nesting at some limit comes to the same at every
higher one, be that a program or another failure. And from some limit on no source fails for the nesting. -/
theorem limit_only_refuses :
    (∀ (o : Options) (layout : Layout) (l l' : Nat), l ≤ l' →
      (∀ e, generate parser { o with limit := l } layout source = .error e → ¬e.IsTooDeep) →
        generate parser { o with limit := l' } layout source = generate parser { o with limit := l } layout source) ∧
    ∃ bound, ∀ (o : Options) (layout : Layout) e, bound ≤ o.limit → generate parser o layout source = .error e →
      ¬e.IsTooDeep := by
  refine ⟨fun o layout l l' hl hanswer => ?_, generate_exists_limit parser source⟩
  rcases generate_of_le hl parser source o layout with ⟨e, he, hdeep⟩ | heq
  · exact absurd hdeep (hanswer e he)
  · exact heq

end

/-- A variable with a call, which has three levels. -/
theorem limit_only_refuses_call :
    (∃ pos, generate Grammar.parser { limit := 2 } .pretty "package p\nvar x = f(1)" =
        .error (.synth (.tooDeep 2 pos))) ∧ 3 ≤ 256 ∧
      ∃ text, generate Grammar.parser { limit := 3 } .pretty "package p\nvar x = f(1)" = .ok text ∧
        generate Grammar.parser { limit := 256 } .pretty "package p\nvar x = f(1)" = .ok text := by
  generalize hsource : "package p\nvar x = f(1)" = source
  have hdeep : (match generate Grammar.parser { limit := 2 } .pretty source with
      | .error (.synth (.tooDeep limit _)) => some limit
      | _ => none) = some 2 := by
    rw [← hsource]
    decide +kernel
  have hanswer : (generate Grammar.parser { limit := 3 } .pretty source).toOption.isSome := by
    rw [← hsource]
    decide +kernel
  refine ⟨?_, by decide, ?_⟩
  · split at hdeep
    · rename_i limit pos h
      cases hdeep
      exact ⟨pos, h⟩
    · cases hdeep
  · cases htext : generate Grammar.parser { limit := 3 } .pretty source with
    | error e =>
      rw [htext] at hanswer
      cases hanswer
    | ok text =>
      have hsame := (limit_only_refuses Grammar.parser source).1 {} .pretty 3 256 (by decide) (fun e he => by rw [htext] at he; cases he)
      exact ⟨text, rfl, hsame.trans htext⟩

end GoRebuild
