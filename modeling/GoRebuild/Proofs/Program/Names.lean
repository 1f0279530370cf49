import GoRebuild.Program.Render
import GoRebuild.Proofs.Program.Isolation
import Mathlib

/-!
# The names of generators

A name that is taken gets the offset of its declaration behind it, and a number if that is taken, too. The
search for a number ends: there is one more candidate than there are names.

* `freshName_not_mem`, `Generator.rename_not_mem` : the new name is free;
* `getElem?_renamedFrom` : each generator is renamed against those before it, as they are named by then;
* `NamedApart` : generators stand as their declarations do, and their names are distinct and not that of the
  function that adds them up;
* `Clashes`, `FirstClash`, `duplicate?_eq_some_iff` : the name that rendering refuses;
* `generators_named_apart` : assembled programs render, and rendering refuses nothing else.
-/

namespace GoRebuild

/-! ## A free name -/

theorem numbered_inj {base : String} {m n : Nat}
    (h : base ++ "_" ++ toString m = base ++ "_" ++ toString n) : m = n :=
  Nat.repr_inj.mp ((String.append_right_inj _).mp h)

/-- A search that ends on a taken name has tried as many names as it may. -/
theorem taken_of_searchName {taken : List String} {base : String} {bound n : Nat}
    (h : searchName taken base bound n ∈ taken) :
    ∀ i ≤ bound, base ++ "_" ++ toString (n + i) ∈ taken := by
  induction bound generalizing n with
  | zero =>
    intro i hi
    obtain rfl : i = 0 := by omega
    exact h
  | succ bound ih =>
    rw [searchName] at h
    split at h
    · rename_i htaken
      intro i hi
      cases i with
      | zero => exact List.contains_iff_mem.mp htaken
      | succ i =>
        have hlater := ih h i (by omega)
        rwa [show n + 1 + i = n + (i + 1) by omega] at hlater
    · rename_i hfree
      exact absurd (List.contains_iff_mem.mpr h) hfree

/-- There are more numbers to try than names that are taken. -/
theorem searchName_not_mem (taken : List String) (base : String) (n : Nat) :
    searchName taken base taken.length n ∉ taken := by
  intro h
  have htried := taken_of_searchName h
  have hnodup : ((List.range (taken.length + 1)).map fun i => base ++ "_" ++ toString (n + i)).Nodup := by
    refine List.nodup_range.map fun i j hij => ?_
    have := numbered_inj hij
    omega
  have hsubset : ((List.range (taken.length + 1)).map fun i => base ++ "_" ++ toString (n + i)) ⊆ taken := by
    intro name hname
    obtain ⟨i, hi, rfl⟩ := List.mem_map.mp hname
    exact htried i (by have := List.mem_range.mp hi; omega)
  have hle := (hnodup.subperm hsubset).length_le
  rw [List.length_map, List.length_range] at hle
  omega

theorem freshName_not_mem (taken : List String) (base : String) : freshName taken base ∉ taken := by
  unfold freshName
  split
  · exact searchName_not_mem taken base 2
  · rename_i hfree
    exact fun h => hfree (List.contains_iff_mem.mpr h)

namespace Generator

theorem rename_of_not_mem {taken : List String} {g : Generator} (h : g.name ∉ taken) : g.rename taken = g := by
  unfold rename
  rw [if_neg fun htaken => h (List.contains_iff_mem.mp htaken)]

theorem rename_not_mem (taken : List String) (g : Generator) : (g.rename taken).name ∉ taken := by
  unfold rename
  split
  · exact freshName_not_mem taken _
  · rename_i hfree
    exact fun h => hfree (List.contains_iff_mem.mpr h)

theorem content_rename (taken : List String) (g : Generator) : (g.rename taken).content = g.content := by
  unfold rename
  split <;> rfl

end Generator

/-! ## All names -/

theorem nodup_renamedFrom (taken : List String) (gs : List Generator) :
    ((renamedFrom taken gs).map Generator.name).Nodup ∧
      ∀ n ∈ (renamedFrom taken gs).map Generator.name, n ∉ taken := by
  induction gs generalizing taken with
  | nil => simp [renamedFrom]
  | cons g gs ih =>
    obtain ⟨hnodup, hfree⟩ := ih ((g.rename taken).name :: taken)
    rw [renamedFrom, List.map_cons]
    refine ⟨List.nodup_cons.mpr ⟨fun h => hfree _ h (by simp), hnodup⟩, ?_⟩
    rintro n (_ | ⟨_, hn⟩)
    · exact g.rename_not_mem taken
    · exact fun htaken => hfree n hn (by simp [htaken])

/-- A generator is renamed against the names before it. -/
theorem getElem?_renamedFrom (taken : List String) (gs : List Generator) (i : Nat) :
    (renamedFrom taken gs)[i]? =
      gs[i]?.map (Generator.rename ((((renamedFrom taken gs).take i).map Generator.name).reverse ++ taken)) := by
  induction gs generalizing taken i with
  | nil => simp [renamedFrom]
  | cons g gs ih =>
    rw [renamedFrom]
    cases i with
    | zero => rfl
    | succ i => simp [ih]

/-- What a name of a generator begins with. -/
def IsGeneratorName (n : String) : Prop :=
  "genFunc".toList <+: n.toList ∨ "genDeclAt".toList <+: n.toList

theorem IsGeneratorName.append {n : String} (h : IsGeneratorName n) (m : String) : IsGeneratorName (n ++ m) := by
  unfold IsGeneratorName
  rw [String.toList_append]
  exact h.imp (·.trans (List.prefix_append _ _)) (·.trans (List.prefix_append _ _))

theorem IsGeneratorName.ne_fileFunction {n : String} (h : IsGeneratorName n) : n ≠ fileFunction := by
  rintro rfl
  rcases h with h | h <;> revert h <;> decide

theorem Decl.isGeneratorName (d : Decl) : IsGeneratorName d.generatorName := by
  cases d with
  | gen d =>
    refine .inr ?_
    rw [generatorName, String.toList_append]
    exact List.prefix_append _ _
  | func d =>
    refine .inl ?_
    rw [generatorName, String.append_assoc, String.toList_append]
    exact List.prefix_append _ _

theorem isGeneratorName_searchName (taken : List String) {base : String} (h : IsGeneratorName base) (bound n : Nat) :
    IsGeneratorName (searchName taken base bound n) := by
  induction bound generalizing n with
  | zero => exact (h.append _).append _
  | succ bound ih =>
    rw [searchName]
    split
    · exact ih (n + 1)
    · exact (h.append _).append _

theorem Generator.isGeneratorName_rename (taken : List String) {g : Generator} (h : IsGeneratorName g.name) :
    IsGeneratorName (g.rename taken).name := by
  unfold rename
  split
  · unfold freshName
    split
    · exact isGeneratorName_searchName taken ((h.append _).append _) _ _
    · exact (h.append _).append _
  · exact h

theorem isGeneratorName_renamedFrom (taken : List String) {gs : List Generator}
    (h : ∀ g ∈ gs, IsGeneratorName g.name) : ∀ g ∈ renamedFrom taken gs, IsGeneratorName g.name := by
  induction gs generalizing taken with
  | nil => simp [renamedFrom]
  | cons g gs ih =>
    rw [renamedFrom]
    rintro u (_ | ⟨_, hu⟩)
    · exact Generator.isGeneratorName_rename taken (h g (by simp))
    · exact ih _ (fun x hx => h x (by simp [hx])) u hu

/-! ## Generators and declarations -/

/-- Whether a declaration only fills the symbol table. -/
def Decl.isImport : Decl → Bool
  | gen (.mk .importTok _ _ _) => true
  | _ => false

/-- The declarations that have generators. -/
def File.generating (file : File) : List Decl :=
  file.decls.filter fun d => !d.isImport

theorem answer_map {α β : Type} {act : Synth α} (h : Synth.Balanced act) {f : α → β} {b : β}
    (hb : (act >>= fun a => pure (f a)).answer = .ok b) : ∃ a, b = f a := by
  rw [answer_bind h] at hb
  cases hact : act.answer with
  | error e => rw [hact] at hb; cases hb
  | ok a =>
    rw [hact] at hb
    cases hb
    exact ⟨a, rfl⟩

/-- A declaration gives no generator, or one with its name and position. -/
theorem Decl.generator_of_answer {s : Scope} {d : Decl} {g : Option Generator} (h : (d.synth s).answer = .ok g) :
    (d.isImport = true ∧ g = none) ∨ (d.isImport = false ∧ ∃ c, g = some ⟨d.generatorName, c, d.pos⟩) := by
  cases d with
  | gen d =>
    obtain ⟨tok, pos, grouped, specs⟩ := d
    cases tok with
    | importTok =>
      cases h
      exact .inl ⟨rfl, rfl⟩
    | _ => exact .inr ⟨rfl, answer_map (GenDecl.follows_synth s _).balanced h⟩
  | func d => exact .inr ⟨rfl, answer_map (FuncDecl.follows_synth s d).balanced h⟩

/-- Generators and the declarations that they rebuild. -/
structure NamedApart (s : Scope) (ds : List Decl) (gs : List Generator) : Prop where
  /-- In order, each has the chain that its declaration gives by itself, and its position. -/
  own : List.Forall₂ (fun d g => (d.synth s).answer = .ok (some ⟨d.generatorName, g.chain, d.pos⟩) ∧
    g.pos = d.pos) ds gs
  /-- No two have one name. -/
  nodup : (gs.map Generator.name).Nodup
  /-- None has the name of the function that adds them up. -/
  not_file : fileFunction ∉ gs.map Generator.name
  /-- A name that none before it has is kept. -/
  kept : ∀ (i : Nat) (d : Decl) (g : Generator), ds[i]? = some d → gs[i]? = some g →
    d.generatorName ∉ (gs.take i).map Generator.name → g.name = d.generatorName

/-- The generators of declarations under the names that they derive. -/
theorem forall₂_generators {s : Scope} {ds : List Decl} {gs : List (Option Generator)}
    (h : List.Forall₂ (fun d g => (d.synth s).answer = .ok g) ds gs) :
    List.Forall₂ (fun d g => (d.synth s).answer = .ok (some g) ∧ g.name = d.generatorName ∧ g.pos = d.pos)
      (ds.filter fun d => !d.isImport) (gs.filterMap id) := by
  induction h with
  | nil => exact .nil
  | @cons d g ds gs hd _ ih =>
    rcases Decl.generator_of_answer hd with ⟨himport, rfl⟩ | ⟨himport, c, rfl⟩
    · rw [List.filter_cons_of_neg (by simp [himport])]
      exact ih
    · rw [List.filter_cons_of_pos (by simp [himport])]
      exact .cons ⟨hd, rfl, rfl⟩ ih

/-- Renaming changes neither the chain nor the position. -/
theorem own_renamedFrom {s : Scope} {ds : List Decl} {gs : List Generator}
    (h : List.Forall₂ (fun d g => (d.synth s).answer = .ok (some g) ∧ g.name = d.generatorName ∧ g.pos = d.pos)
      ds gs) (taken : List String) :
    List.Forall₂ (fun d g => (d.synth s).answer = .ok (some ⟨d.generatorName, g.chain, d.pos⟩) ∧ g.pos = d.pos)
      ds (renamedFrom taken gs) := by
  induction h generalizing taken with
  | nil => exact .nil
  | @cons d g ds gs hd _ ih =>
    obtain ⟨hanswer, hname, hpos⟩ := hd
    obtain ⟨hchain, hpos'⟩ := Prod.ext_iff.mp (g.content_rename taken)
    change (g.rename taken).chain = g.chain at hchain
    change (g.rename taken).pos = g.pos at hpos'
    refine .cons ⟨?_, by rw [hpos', hpos]⟩ (ih _)
    rw [hanswer, hchain, ← hname, ← hpos]

theorem namedApart_renamed {s : Scope} {ds : List Decl} {gs : List Generator}
    (h : List.Forall₂ (fun d g => (d.synth s).answer = .ok (some g) ∧ g.name = d.generatorName ∧ g.pos = d.pos)
      ds gs) : NamedApart s ds (renamed gs) where
  own := own_renamedFrom h []
  nodup := (nodup_renamedFrom [] gs).1
  not_file := by
    have hderived : ∀ g ∈ gs, IsGeneratorName g.name := by
      intro g hg
      obtain ⟨i, hi, rfl⟩ := List.getElem_of_mem hg
      rw [List.forall₂_iff_get] at h
      have hname := (h.2 i (h.1 ▸ hi) hi).2.1
      rw [List.get_eq_getElem] at hname
      rw [hname]
      exact Decl.isGeneratorName _
    intro hfile
    obtain ⟨g, hg, hname⟩ := List.mem_map.mp hfile
    exact (isGeneratorName_renamedFrom [] hderived g hg).ne_fileFunction hname
  kept := by
    intro i d g hd hg hfree
    rw [renamed, getElem?_renamedFrom, List.append_nil] at hg
    obtain ⟨g', hg', rfl⟩ := Option.map_eq_some_iff.mp hg
    have hname : g'.name = d.generatorName := by
      obtain ⟨hi, rfl⟩ := List.getElem?_eq_some_iff.mp hd
      obtain ⟨hi', rfl⟩ := List.getElem?_eq_some_iff.mp hg'
      exact ((List.forall₂_iff_get.mp h).2 i hi hi').2.1
    rw [Generator.rename_of_not_mem, hname]
    rw [hname, List.mem_reverse]
    exact hfree

/-! ## Names that rendering refuses -/

/-- A generator that cannot be written behind others. -/
def Clashes (before : List Generator) (g : Generator) : Prop :=
  g.name = fileFunction ∨ g.name ∈ before.map Generator.name

/-- The first generator that cannot be written behind those before it has this name. -/
def FirstClash (gs : List Generator) (n : String) : Prop :=
  ∃ i g, gs[i]? = some g ∧ g.name = n ∧ Clashes (gs.take i) g ∧
    ∀ j < i, ∀ g', gs[j]? = some g' → ¬ Clashes (gs.take j) g'

/-- The name that is found is the first that clashes; the names seen are those of generators before. -/
theorem duplicateFrom_eq_some_iff {before gs : List Generator} {n : String} :
    duplicateFrom (before.map Generator.name).reverse gs = some n ↔
      ∃ i g, gs[i]? = some g ∧ g.name = n ∧ Clashes (before ++ gs.take i) g ∧
        ∀ j < i, ∀ g', gs[j]? = some g' → ¬ Clashes (before ++ gs.take j) g' := by
  induction gs generalizing before with
  | nil => simp [duplicateFrom]
  | cons g gs ih =>
    have hseen : (((before.map Generator.name).reverse.contains g.name || g.name == fileFunction) = true) ↔
        Clashes before g := by
      simp [Clashes, or_comm]
    rw [duplicateFrom]
    split
    · rename_i hclash
      rw [hseen] at hclash
      constructor
      · rintro ⟨⟩
        exact ⟨0, g, rfl, rfl, by simpa using hclash, by simp⟩
      · rintro ⟨i, g', hg', rfl, -, hfirst⟩
        cases i with
        | zero => cases hg'; rfl
        | succ i => exact absurd (by simpa using hclash) (hfirst 0 (by omega) g rfl)
    · rename_i hclash
      rw [hseen] at hclash
      have hcons : g.name :: (before.map Generator.name).reverse =
          ((before ++ [g]).map Generator.name).reverse := by simp
      rw [hcons, ih]
      have htake (i : Nat) : before ++ (g :: gs).take (i + 1) = before ++ [g] ++ gs.take i := by simp
      constructor
      · rintro ⟨i, g', hg', rfl, hlater, hfirst⟩
        refine ⟨i + 1, g', hg', rfl, by rwa [htake], ?_⟩
        intro j hj x hx
        cases j with
        | zero =>
          cases hx
          simpa using hclash
        | succ j =>
          rw [htake]
          exact hfirst j (by omega) x hx
      · rintro ⟨i, g', hg', rfl, hlater, hfirst⟩
        cases i with
        | zero =>
          cases hg'
          exact absurd (by simpa using hlater) hclash
        | succ i =>
          rw [htake] at hlater
          refine ⟨i, g', hg', rfl, hlater, ?_⟩
          intro j hj x hx
          have := hfirst (j + 1) (by omega) x hx
          rwa [htake] at this

theorem Program.duplicate?_eq_some_iff {p : Program} {n : String} :
    p.duplicate? = some n ↔ FirstClash p.units n := by
  exact @duplicateFrom_eq_some_iff [] p.units n

/-- Where some generator clashes, there is a first. -/
theorem exists_firstClash_iff {gs : List Generator} :
    (∃ n, FirstClash gs n) ↔ ∃ i g, gs[i]? = some g ∧ Clashes (gs.take i) g := by
  constructor
  · rintro ⟨n, i, g, hg, -, hclash, -⟩
    exact ⟨i, g, hg, hclash⟩
  · intro h
    classical
    obtain ⟨g, hg, hclash⟩ := Nat.find_spec h
    refine ⟨g.name, Nat.find h, g, hg, rfl, hclash, ?_⟩
    exact fun j hj g' hg' hclash' => Nat.find_min h hj ⟨g', hg', hclash'⟩

/-- Generators whose names are distinct and not that of the file function do not clash. -/
theorem not_clashes_of_nodup {gs : List Generator} (hnodup : (gs.map Generator.name).Nodup)
    (hfile : fileFunction ∉ gs.map Generator.name) {i : Nat} {g : Generator} (hg : gs[i]? = some g) :
    ¬ Clashes (gs.take i) g := by
  obtain ⟨hi, rfl⟩ := List.getElem?_eq_some_iff.mp hg
  rintro (h | h)
  · exact hfile (h ▸ List.mem_map_of_mem (List.getElem_mem hi))
  · rw [List.map_take] at h
    obtain ⟨j, hj, hname⟩ := List.getElem_of_mem h
    rw [List.length_take, List.length_map] at hj
    have hi' : i < (gs.map Generator.name).length := by simpa using hi
    have hj' : j < (gs.map Generator.name).length := by rw [List.length_map]; omega
    have hsame := @List.Nodup.getElem_inj_iff _ _ hnodup j hj' i hi'
    rw [List.getElem_take, List.getElem_map] at hname
    rw [List.getElem_map, List.getElem_map] at hsame
    have := hsame.mp hname
    omega

/-! ## Rendering -/

namespace Program

theorem render_eq_duplicateUnit_iff {p : Program} {l : Layout} {n : String} :
    p.render l = .error (.duplicateUnit n) ↔ FirstClash p.units n := by
  rw [← duplicate?_eq_some_iff, render]
  cases p.duplicate? <;> simp

theorem render_eq_text {p : Program} (hnodup : (p.units.map Generator.name).Nodup)
    (hfile : fileFunction ∉ p.units.map Generator.name) (l : Layout) : p.render l = .ok (p.text l) := by
  rw [render]
  cases hdup : p.duplicate? with
  | none => rfl
  | some n =>
    obtain ⟨i, g, hg, -, hclash, -⟩ := duplicate?_eq_some_iff.mp hdup
    exact absurd hclash (not_clashes_of_nodup hnodup hfile hg)

/-- Nothing is written of a program whose names clash. -/
theorem writeTo_eq_duplicateUnit_iff {p : Program} {l : Layout} {sink sink' : Sink} {n : String} :
    p.writeTo l sink = (.error (.duplicateUnit n), sink') ↔ FirstClash p.units n ∧ sink' = sink := by
  rw [← render_eq_duplicateUnit_iff (l := l), writeTo]
  cases hrender : p.render l with
  | error e => simp [eq_comm]
  | ok text =>
    dsimp only
    rcases sink.write text.toUTF8.toList with ⟨_ | _, sink''⟩ <;> simp

end Program

/-- The generators of a file that is assembled are named apart. -/
theorem namedApart_of_assemble {file : File} {o : Options} {p : Program} (hp : assemble file o = .ok p) :
    ∃ table, SymbolTable.build file.imports = .ok table ∧ NamedApart ⟨table, o.limit⟩ file.generating p.units := by
  rw [assemble_eq_assembleBy, assembleBy_eq_ok_iff] at hp
  obtain ⟨-, table, gs, htable, hgs, rfl⟩ := hp
  exact ⟨table, htable, namedApart_renamed (forall₂_generators (synthApart_eq_ok_iff.mp hgs))⟩

/-- **Generators are named apart.** If a file can be assembled, its generators are those of its declarations
without the imports, in order; their names are distinct, none is that of the file function, and a name is kept
unless an earlier generator has it; so the program is written in both layouts. Rendering any program fails for a
name exactly if some generator clashes; it tells the first that does, and then nothing is written. -/
theorem generators_named_apart :
    (∀ (file : File) (o : Options) (p : Program), assemble file o = .ok p →
      (∃ table, SymbolTable.build file.imports = .ok table ∧
        NamedApart ⟨table, o.limit⟩ file.generating p.units) ∧
      ∀ l, p.render l = .ok (p.text l)) ∧
    ∀ (p : Program) (l : Layout),
      ((∃ n, p.render l = .error (.duplicateUnit n)) ↔ ∃ i g, p.units[i]? = some g ∧ Clashes (p.units.take i) g) ∧
      (∀ n, p.render l = .error (.duplicateUnit n) ↔ FirstClash p.units n) ∧
      ∀ (sink sink' : Sink) (n : String),
        p.writeTo l sink = (.error (.duplicateUnit n), sink') ↔ FirstClash p.units n ∧ sink' = sink := by
  refine ⟨?_, fun p l => ⟨?_, fun n => Program.render_eq_duplicateUnit_iff, fun _ _ _ =>
    Program.writeTo_eq_duplicateUnit_iff⟩⟩
  · intro file o p hp
    obtain ⟨table, htable, happart⟩ := namedApart_of_assemble hp
    exact ⟨⟨table, htable, happart⟩, Program.render_eq_text happart.nodup happart.not_file⟩
  · rw [← exists_firstClash_iff]
    exact exists_congr fun n => Program.render_eq_duplicateUnit_iff

/-- A function takes the name that the second `init` is given first, so that it gets a number, too. -/
theorem generators_named_apart_init :
    let f (name : String) (offset : UInt32) : Decl :=
      .func ⟨none, ⟨name, .none⟩, .mk [] none, some (.mk [] .none), ⟨offset, 1, 1⟩⟩
    let file : File := ⟨⟨"p", .none⟩, [], [f "initAt80" 0, f "init" 40, f "init" 80]⟩
    ∃ p, assemble file {} = .ok p ∧
      p.units.map Generator.name = ["genFuncinitAt80", "genFuncinit", "genFuncinitAt80_2"] ∧
      p.render .pretty = .ok (p.text .pretty) := by
  intro f file
  refine ⟨_, rfl, by decide +kernel, ?_⟩
  exact (generators_named_apart.1 file {} _ rfl).2 .pretty

end GoRebuild
