import GoRebuild.Proofs.Program.Imports
import GoRebuild.Proofs.Program.Names
import GoRebuild.Proofs.Synth.Carries
import GoRebuild.Proofs.Synth.Landmarks
import Mathlib

/-!
# Imports only qualify

* `SymbolTable.Tells.resolve_eq_some_iff_mem` : a table resolves a name to a path exactly if an import binds it so;
* `agreeOn_of_bindings` : when two lists of imports resolve alike the bases of the selectors among landmarks;
* `map_units_assemble` : the generators of a file are those of its declarations without the imports;
* `imports_only_qualify` : what imports decide is which selectors become calls of `Qual`.
-/

namespace GoRebuild
open Chain Synth

/-! ## What is looked up -/

theorem SymbolTable.Tells.resolve_eq_some_iff_mem {t : SymbolTable} {imports : List ImportSpec} {name path : String}
    (h : t.Tells imports) : t.resolve name = some path ↔ (name, path) ∈ imports.filterMap ImportSpec.binding? := by
  constructor
  · intro hresolve
    obtain ⟨before, i, after, rfl, hname, rfl, -⟩ := h.resolve_eq_some_iff.mp hresolve
    have hmem : i ∈ before ++ i :: after := List.mem_append_right before List.mem_cons_self
    exact List.mem_filterMap.mpr ⟨i, hmem, by rw [ImportSpec.binding?, hname]; rfl⟩
  · intro hmem
    obtain ⟨i, hi, hbinding⟩ := List.mem_filterMap.mp hmem
    obtain ⟨n, hname, heq⟩ := Option.map_eq_some_iff.mp hbinding
    cases heq
    obtain ⟨before, after, rfl⟩ := List.append_of_mem hi
    exact h.resolve_eq hname

theorem SymbolTable.tells_of_build {imports : List ImportSpec} {t : SymbolTable} (h : build imports = .ok t) :
    t.Tells imports := by
  rcases build_tells imports with ⟨u, hu, htells⟩ | ⟨e, he, -⟩
  · rw [h, Except.ok.injEq] at hu
    exact hu ▸ htells
  · rw [h] at he
    cases he

theorem Decl.landmarks_of_isImport {d : Decl} (h : d.isImport = true) : d.landmarks = [] := by
  unfold isImport at h
  split at h
  · rfl
  · cases h

/-- Declarations of imports have none. -/
theorem File.landmarks_eq (file : File) : file.landmarks = file.generating.flatMap Decl.landmarks := by
  unfold landmarks generating
  induction file.decls with
  | nil => rfl
  | cons d ds ih =>
    by_cases himport : d.isImport = true
    · rw [List.flatMap_cons, Decl.landmarks_of_isImport himport, List.filter_cons_of_neg (by simp [himport]), ← ih]
      rfl
    · rw [List.filter_cons_of_pos (by simp [himport]), List.flatMap_cons, List.flatMap_cons, ih]

/-- Imports that bind the bases of selectors alike, whatever else they bind and in whatever order they come. -/
theorem agreeOn_of_bindings {imports others : List ImportSpec} {t u : SymbolTable} {ls : List Landmark}
    (ht : SymbolTable.build imports = .ok t) (hu : SymbolTable.build others = .ok u)
    (h : ∀ base member, .selector base member ∈ ls → ∀ path,
      (base, path) ∈ imports.filterMap ImportSpec.binding? ↔ (base, path) ∈ others.filterMap ImportSpec.binding?) :
    AgreeOn t u ls := by
  intro base member hmem
  refine Option.ext fun path => ?_
  rw [(SymbolTable.tells_of_build ht).resolve_eq_some_iff_mem, (SymbolTable.tells_of_build hu).resolve_eq_some_iff_mem]
  exact h base member hmem path

/-! ## Generators without imports -/

theorem synthApart_congr {t u : SymbolTable} (limit : Nat) {ds : List Decl}
    (h : AgreeOn t u (ds.flatMap Decl.landmarks)) : synthApart ⟨t, limit⟩ ds = synthApart ⟨u, limit⟩ ds := by
  induction ds with
  | nil => rfl
  | cons d ds ih =>
    rw [List.flatMap_cons, agreeOn_append] at h
    rw [synthApart, synthApart, (d.carries_synth (Nat.le_refl limit) h.1).eq rfl, ih h.2]

theorem Decl.synth_of_isImport (s : Scope) {d : Decl} (h : d.isImport = true) : d.synth s = pure none := by
  unfold isImport at h
  split at h
  · rfl
  · cases h

/-- What the first declaration gives stands in front. -/
theorem map_synthApart_cons (s : Scope) (d : Decl) (ds : List Decl) :
    (synthApart s (d :: ds)).map (List.filterMap id) =
      (d.synth s).answer >>= fun g => ((synthApart s ds).map (List.filterMap id)).map (g.toList ++ ·) := by
  rw [synthApart]
  cases (d.synth s).answer with
  | error e => rfl
  | ok g => cases synthApart s ds <;> cases g <;> rfl

/-- Declarations of imports give no generators, and they do not fail. -/
theorem map_synthApart_filter (s : Scope) (ds : List Decl) :
    (synthApart s (ds.filter fun d => !d.isImport)).map (List.filterMap id) =
      (synthApart s ds).map (List.filterMap id) := by
  induction ds with
  | nil => rfl
  | cons d ds ih =>
    rw [map_synthApart_cons]
    by_cases himport : d.isImport = true
    · rw [List.filter_cons_of_neg (by simp [himport]), ih, Decl.synth_of_isImport s himport]
      cases synthApart s ds <;> rfl
    · rw [List.filter_cons_of_pos (by simp [himport]), map_synthApart_cons, ih]

/-- The generators of a file whose imports are accepted. -/
theorem map_units_assemble {file : File} {o : Options} {t : SymbolTable} (h : SymbolTable.build file.imports = .ok t) :
    (assemble file o).map Program.units =
      if Text.isBlankText o.package then .error .emptyProgramName
      else ((synthApart ⟨t, o.limit⟩ file.generating).map (List.filterMap id)).map renamed := by
  rw [assemble_eq_assembleBy, assembleBy, h, File.generating, map_synthApart_filter]
  cases Text.isBlankText o.package with
  | true => rfl
  | false =>
    cases hunits : synthApart ⟨t, o.limit⟩ file.decls with
    | error e => simp [bind, Except.bind, Except.map, hunits]
    | ok gs => simp [bind, Except.bind, Except.map, pure, Except.pure, hunits]

/-- **Imports only qualify.** What a request gives, be it chains or a failure, depends on a table only by how that resolves
the identifiers that stand alone before the dot of a selector; so a file with other imports, or with imports in another order,
has the same generators, or fails alike, if both lists of imports are accepted and bind those identifiers alike. The calls of
`Qual` in the answer are, from left to right, those of the selectors whose base is such an identifier that the table
resolves, each with that path and the member. -/
theorem imports_only_qualify :
    (∀ (r : Request) (t u : SymbolTable) (limit : Nat), AgreeOn t u r.landmarks →
      r.run ⟨t, limit⟩ = r.run ⟨u, limit⟩) ∧
    (∀ (f g : File) (o : Options) (t u : SymbolTable),
      SymbolTable.build f.imports = .ok t → SymbolTable.build g.imports = .ok u → f.generating = g.generating →
      (∀ base member, .selector base member ∈ f.landmarks → ∀ path,
        (base, path) ∈ f.imports.filterMap ImportSpec.binding? ↔
          (base, path) ∈ g.imports.filterMap ImportSpec.binding?) →
      (assemble f o).map Program.units = (assemble g o).map Program.units) ∧
    ∀ (s : Scope) (r : Request) (a : Answer), (r.run s).answer = .ok a →
      a.all.flatMap Chain.quals = r.landmarks.filterMap (Landmark.qual? s.table) := by
  refine ⟨fun r t u limit h => (r.carries_run (Nat.le_refl limit) h).eq rfl, ?_, ?_⟩
  · intro f g o t u ht hu hsame hbases
    have hagree := agreeOn_of_bindings ht hu hbases
    rw [File.landmarks_eq] at hagree
    rw [map_units_assemble ht, map_units_assemble hu, ← hsame, synthApart_congr o.limit hagree]
  · intro s r a ha
    exact ((Request.accounts_run s r).of_answer ha).quals

/-- In `var v = strings.Trim(s.strings, sort)` an import of `sort` changes nothing, before or behind that of `strings`. -/
theorem imports_only_qualify_unused :
    let ident (n : String) : Expr := .mk (.ident n) .none
    let dot (x n : String) : Expr := .mk (.selector (ident x) ⟨n, .none⟩) .none
    let call : Expr := .mk (.call (dot "strings" "Trim") [dot "s" "strings", ident "sort"] false) .none
    let v : Decl := .gen (.mk .varTok .none false [.value [⟨"v", .none⟩] none [call]])
    let i (path : String) : ImportSpec := ⟨none, path, .none⟩
    let f : File := ⟨⟨"p", .none⟩, [i "strings"], [v]⟩
    let g : File := ⟨⟨"p", .none⟩, [i "sort", i "strings"], [.gen (.mk .importTok .none false [.imported (i "sort")]), v]⟩
    let t : SymbolTable := { paths := [("strings", "strings")] }
    let u : SymbolTable := { paths := [("sort", "sort"), ("strings", "strings")] }
    (Request.expr call).run ⟨t, 9⟩ = (Request.expr call).run ⟨u, 9⟩ ∧
      (assemble f {}).map Program.units = (assemble g {}).map Program.units ∧
      ∃ a, ((Request.expr call).run ⟨u, 9⟩).answer = .ok a ∧
        a.all.flatMap Chain.quals = [[.quoted "strings", .quoted "Trim"]] := by
  intro ident dot call v i f g t u
  have ht : SymbolTable.build f.imports = .ok t := by cbv
  have hu : SymbolTable.build g.imports = .ok u := by cbv
  have hbase {base member : String} (hmem : .selector base member ∈ call.landmarks) : base = "strings" ∨ base = "s" := by
    have hselector : .selector base member ∈ [Landmark.selector "strings" "Trim", .group "Call" 2, .selector "s" "strings"] :=
      hmem
    simp only [List.mem_cons, Landmark.selector.injEq, reduceCtorEq, List.not_mem_nil, or_false, false_or] at hselector
    exact hselector.imp And.left And.left
  refine ⟨imports_only_qualify.1 (.expr call) t u 9 ?_, imports_only_qualify.2.1 f g {} t u ht hu rfl ?_, _, rfl,
    imports_only_qualify.2.2 ⟨u, 9⟩ (.expr call) _ rfl⟩
  · intro base member hmem
    rcases hbase hmem with rfl | rfl <;> rfl
  · intro base member hmem path
    have hsort : (i "sort").binding? = some ("sort", "sort") := by cbv
    have hstrings : (i "strings").binding? = some ("strings", "strings") := by cbv
    have hcall : .selector base member ∈ call.landmarks := by
      have hfile : .selector base member ∈ Landmark.names ["v"] :: (call.landmarks ++ []) ++ [] := hmem
      simpa using hfile
    rw [List.filterMap_cons_some hstrings, List.filterMap_cons_some hsort, List.filterMap_cons_some hstrings]
    rcases hbase hcall with rfl | rfl <;> simp

/-- A tree can have a selector `p.M` where no rule reads: as the third index of a slice that is not marked to have one, and
as the variable of a `range` without an operator. There it becomes no call of `Qual`, though `p` is known. -/
theorem imports_only_qualify_unread :
    let s : Scope := ⟨{ paths := [("p", "p")] }, 9⟩
    let ident (n : String) : Expr := .mk (.ident n) .none
    let selector : Expr := .mk (.selector (ident "p") ⟨"M", .none⟩) .none
    let slice : Expr := .mk (.slice (ident "x") none none (some selector) false) .none
    let loop : Stmt := .mk (.rangeStmt (some selector) none none (ident "x") (.mk [] .none)) .none
    (∃ c, (selector.synth s).answer = .ok c ∧ c.quals = [[.quoted "p", .quoted "M"]]) ∧
      (∃ c, (slice.synth s).answer = .ok c ∧ c.quals = []) ∧ ∃ c, (loop.synth s).answer = .ok c ∧ c.quals = [] :=
  ⟨⟨_, rfl, rfl⟩, ⟨_, rfl, rfl⟩, _, rfl, rfl⟩

end GoRebuild
