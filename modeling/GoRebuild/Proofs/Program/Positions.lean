import GoRebuild.Proofs.Program.Isolation
import GoRebuild.Proofs.Synth.Carries

/-!
# Where nodes stand does not matter

* `SynthError.moved`, `Generator.unplaced`, `Program.unplaced` : a failure elsewhere, a generator and a program without
  what their positions decide about;
* `AlikeBy g h r r'` : two results that answer the same to a function, or fail the same but for positions;
* `SymbolTable.add_alike`, `SymbolTable.build_alike` : one import and all imports of a list;
* `Expr.synth_alike`, `Stmt.synth_alike`, `Decl.synth_alike`, `synthApart_alike`, `assemble_alike` : trees that are the same
  up to positions are synthesised and assembled to the same;
* `positions_irrelevant` : so positions decide about nothing but the positions of failures, and the names and positions of
  generators.
-/

namespace GoRebuild

/-- A failure at another position. -/
def SynthError.moved (g : Pos → Pos) : SynthError → SynthError
  | unsupported kind pos => unsupported kind (g pos)
  | dotImport path pos => dotImport path (g pos)
  | duplicateAlias name first second pos => duplicateAlias name first second (g pos)
  | emptyProgramName => emptyProgramName
  | tooDeep limit pos => tooDeep limit (g pos)

/-- A failure without its position. -/
abbrev SynthError.unplaced : SynthError → SynthError :=
  SynthError.moved .nowhere

/-- A generator without its position and its name, which the position may decide about. -/
def Generator.unplaced (g : Generator) : Generator :=
  ⟨"", g.chain, .none⟩

/-- A program whose generators have neither names nor positions. -/
def Program.unplaced (p : Program) : Program :=
  { p with units := p.units.map Generator.unplaced }

/-! ## Results that are the same but for positions -/

/-- Two results that answer the same to a function, or fail the same when moved. -/
inductive AlikeBy {α γ : Type} (g : Pos → Pos) (h : α → γ) : Except SynthError α → Except SynthError α → Prop
  | ok {a a'} : h a = h a' → AlikeBy g h (.ok a) (.ok a')
  | error {e e'} : e.moved g = e'.moved g → AlikeBy g h (.error e) (.error e')

namespace AlikeBy

variable {α β γ δ : Type} {g : Pos → Pos} {h : α → γ} {r r' : Except SynthError α}

theorem bind {k k' : α → Except SynthError β} {h' : β → δ} (hr : AlikeBy g h r r')
    (hk : ∀ a a', h a = h a' → AlikeBy g h' (k a) (k' a')) : AlikeBy g h' (r >>= k) (r' >>= k') := by
  cases hr with
  | ok ha => exact hk _ _ ha
  | error he => exact .error he

theorem eq (hr : AlikeBy g h r r') : (r.map h).mapError (SynthError.moved g) = (r'.map h).mapError (SynthError.moved g) := by
  cases hr with
  | ok ha => exact congrArg Except.ok ha
  | error he => exact congrArg Except.error he

theorem eq_of_id (hr : AlikeBy g id r r') : r.mapError (SynthError.moved g) = r'.mapError (SynthError.moved g) := by
  cases hr with
  | ok ha => exact congrArg Except.ok ha
  | error he => exact congrArg Except.error he

/-- Two computations that a third carries on, at the same limit, give the same. -/
theorem of_carries {same : Prop} (hsame : same) {act act' elsewhere : Synth α}
    (hact : Synth.Carries same g h act elsewhere) (hact' : Synth.Carries same g h act' elsewhere) :
    AlikeBy g h act.answer act'.answer := by
  have hr := hact 0
  have hr' := hact' 0
  unfold Synth.answer
  generalize act.run.run 0 = r at hr
  generalize act'.run.run 0 = r' at hr'
  generalize elsewhere.run.run 0 = q at hr hr'
  cases hr with
  | ok ha =>
    cases hr' with
    | ok ha' => exact .ok (ha.trans ha'.symm)
    | tooDeep hq => cases hq hsame
  | @unsupported kind pos depth =>
    generalize hpos : g pos = p at hr'
    cases hr' with
    | unsupported => exact .error (by rw [SynthError.moved, SynthError.moved, hpos])
    | tooDeep hq => cases hq hsame
  | @tooDeep limit pos depth _ hq =>
    obtain rfl := hq hsame
    generalize hpos : g pos = p at hr'
    cases hr' with
    | tooDeep hq' =>
      obtain ⟨⟩ := hq' hsame
      exact .error (by rw [SynthError.moved, SynthError.moved, hpos])

end AlikeBy

/-! ## Imports -/

section
variable {g : Pos → Pos}

theorem SymbolTable.bind_alike (t : SymbolTable) (name : String) {i j : ImportSpec} (h : i.moved g = j.moved g) :
    AlikeBy g id (t.bind name i) (t.bind name j) := by
  simp only [ImportSpec.moved, ImportSpec.mk.injEq] at h
  obtain ⟨-, hpath, hpos⟩ := h
  unfold SymbolTable.bind
  cases t.resolve name with
  | none => exact .ok (by rw [hpath])
  | some first => exact .error (by rw [SynthError.moved, SynthError.moved, hpath, hpos])

theorem SymbolTable.add_alike (t : SymbolTable) {i j : ImportSpec} (h : i.moved g = j.moved g) :
    AlikeBy g id (t.add i) (t.add j) := by
  have hbind (t : SymbolTable) (name : String) := t.bind_alike name h
  simp only [ImportSpec.moved, ImportSpec.mk.injEq] at h
  obtain ⟨hname, hpath, hpos⟩ := h
  unfold SymbolTable.add
  rw [hname, hpath]
  cases j.name with
  | none => exact hbind t _
  | some n =>
    cases n with
    | dot => exact .error (by rw [SynthError.moved, SynthError.moved, hpos])
    | blank => exact .ok rfl
    | named n => exact hbind _ n

theorem SymbolTable.build_alike {is js : List ImportSpec}
    (h : is.map (ImportSpec.moved g) = js.map (ImportSpec.moved g)) :
    AlikeBy g id (SymbolTable.build is) (SymbolTable.build js) := by
  unfold SymbolTable.build
  generalize ({} : SymbolTable) = start
  induction is generalizing js start with
  | nil =>
    rw [List.map_nil, eq_comm, List.map_eq_nil_iff] at h
    subst h
    exact .ok rfl
  | cons i is ih =>
    cases js with
    | nil => cases h
    | cons j js =>
      rw [List.map_cons, List.map_cons, List.cons.injEq] at h
      rw [List.foldlM_cons, List.foldlM_cons]
      refine (start.add_alike h.1).bind fun t t' ht => ?_
      obtain rfl : t = t' := ht
      exact ih h.2 t

/-! ## Trees -/

theorem Expr.synth_alike {x y : Expr} (h : x.moved g = y.moved g) (s : Scope) :
    AlikeBy g id (x.synth s).answer (y.synth s).answer := by
  have hx := x.carries_synth (Nat.le_refl s.limit) g (.refl s.table _)
  rw [h] at hx
  exact .of_carries rfl hx (y.carries_synth (Nat.le_refl s.limit) g (.refl s.table _))

theorem Stmt.synth_alike {x y : Stmt} (h : x.moved g = y.moved g) (s : Scope) :
    AlikeBy g id (x.synth s).answer (y.synth s).answer := by
  have hx := x.carries_synth (Nat.le_refl s.limit) g (.refl s.table _)
  rw [h] at hx
  exact .of_carries rfl hx (y.carries_synth (Nat.le_refl s.limit) g (.refl s.table _))

theorem Decl.synth_alike {d d' : Decl} (h : d.moved g = d'.moved g) (s : Scope) :
    AlikeBy g (Option.map Generator.chain) (d.synth s).answer (d'.synth s).answer := by
  have hd := d.carries_chain (Nat.le_refl s.limit) g (.refl s.table _)
  rw [h] at hd
  exact .of_carries rfl hd (d'.carries_chain (Nat.le_refl s.limit) g (.refl s.table _))

theorem synthApart_alike (s : Scope) {ds ds' : List Decl} (h : ds.map (Decl.moved g) = ds'.map (Decl.moved g)) :
    AlikeBy g (List.map (Option.map Generator.chain)) (synthApart s ds) (synthApart s ds') := by
  induction ds generalizing ds' with
  | nil =>
    rw [List.map_nil, eq_comm, List.map_eq_nil_iff] at h
    subst h
    exact .ok rfl
  | cons d ds ih =>
    cases ds' with
    | nil => cases h
    | cons d' ds' =>
      rw [List.map_cons, List.map_cons, List.cons.injEq] at h
      refine (Decl.synth_alike h.1 s).bind fun a a' ha => (ih h.2).bind fun as as' has => .ok ?_
      rw [List.map_cons, List.map_cons, ha, has]

/-- Renaming does not touch chains. -/
theorem map_chain_renamed (gs : List (Option Generator)) :
    (renamed (gs.filterMap id)).map Generator.chain = (gs.map (Option.map Generator.chain)).filterMap id := by
  have hcontent := congrArg (List.map Prod.fst) (map_content_renamedFrom [] (gs.filterMap id))
  rw [List.map_map, List.map_map, List.map_filterMap] at hcontent
  rw [renamed, List.filterMap_map]
  exact hcontent

/-- Without names and positions, generators with the same chains are the same. -/
theorem map_unplaced_of_chains {gs gs' : List Generator} (h : gs.map Generator.chain = gs'.map Generator.chain) :
    gs.map Generator.unplaced = gs'.map Generator.unplaced := by
  have hunplaced := congrArg (List.map fun c => (⟨"", c, .none⟩ : Generator)) h
  rwa [List.map_map, List.map_map] at hunplaced

theorem assemble_alike {f f' : File} (h : f.moved g = f'.moved g) (o : Options) :
    AlikeBy g Program.unplaced (assemble f o) (assemble f' o) := by
  simp only [File.moved, File.mk.injEq, Ident.moved, Ident.mk.injEq] at h
  obtain ⟨⟨hname, -⟩, himports, hdecls⟩ := h
  rw [assemble_eq_assembleBy, assemble_eq_assembleBy]
  unfold assembleBy
  split
  · exact .error rfl
  · refine (SymbolTable.build_alike himports).bind fun table table' htable => ?_
    obtain rfl : table = table' := htable
    refine (synthApart_alike ⟨table, o.limit⟩ hdecls).bind fun gs gs' hgs => .ok ?_
    have hunits : (renamed (gs.filterMap id)).map Generator.unplaced = (renamed (gs'.filterMap id)).map Generator.unplaced :=
      map_unplaced_of_chains (by rw [map_chain_renamed, map_chain_renamed, hgs])
    simp only [Program.unplaced, hunits, hname]

end

/-- **Where nodes stand does not matter.** Expressions, statements and declarations that are the same up to positions have
the same chain, at every symbol table and every limit, or fail for the same reason, which may be found at another position.
Files that are the same up to positions are assembled with one counter to programs that differ in the names and positions
of their generators only, or fail for the same reason. -/
theorem positions_irrelevant :
    (∀ x y : Expr, x.alike y → ∀ s : Scope,
      (x.synth s).answer.mapError SynthError.unplaced = (y.synth s).answer.mapError SynthError.unplaced) ∧
    (∀ x y : Stmt, x.alike y → ∀ s : Scope,
      (x.synth s).answer.mapError SynthError.unplaced = (y.synth s).answer.mapError SynthError.unplaced) ∧
    (∀ d d' : Decl, d.alike d' → ∀ s : Scope,
      ((d.synth s).answer.map (Option.map Generator.chain)).mapError SynthError.unplaced =
        ((d'.synth s).answer.map (Option.map Generator.chain)).mapError SynthError.unplaced) ∧
    ∀ f f' : File, f.alike f' → ∀ o : Options,
      ((assemble f { o with parallel := false }).map Program.unplaced).mapError SynthError.unplaced =
        ((assemble f' { o with parallel := false }).map Program.unplaced).mapError SynthError.unplaced :=
  ⟨fun _ _ h s => (Expr.synth_alike (Expr.alike_iff.mp h) s).eq_of_id,
    fun _ _ h s => (Stmt.synth_alike (Stmt.alike_iff.mp h) s).eq_of_id,
    fun _ _ h s => (Decl.synth_alike (Decl.alike_iff.mp h) s).eq,
    fun _ _ h o => (assemble_alike (File.alike_iff.mp h) { o with parallel := false }).eq⟩

/-- Two functions with one name, further down: the second generator has another name, and there is no other difference. -/
theorem positions_irrelevant_init :
    let f (offset : UInt32) : Decl := .func ⟨none, ⟨"init", .none⟩, .mk [] none, some (.mk [] .none), ⟨offset, 1, 1⟩⟩
    let file (offset : UInt32) : File := ⟨⟨"p", .none⟩, [], [f 40, f offset]⟩
    (file 80).alike (file 90) ∧ ∃ p p', assemble (file 80) {} = .ok p ∧ assemble (file 90) {} = .ok p' ∧
      p.units.map Generator.name = ["genFuncinit", "genFuncinitAt80"] ∧
      p'.units.map Generator.name = ["genFuncinit", "genFuncinitAt90"] ∧ p.unplaced = p'.unplaced := by
  intro f file
  have halike : (file 80).alike (file 90) := by decide +kernel
  refine ⟨halike, _, _, rfl, rfl, by decide +kernel, by decide +kernel, ?_⟩
  exact Except.ok.inj (positions_irrelevant.2.2.2 (file 80) (file 90) halike {})

end GoRebuild
