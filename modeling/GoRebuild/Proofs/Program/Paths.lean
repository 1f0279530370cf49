import GoRebuild.Proofs.Program.Qualified
import GoRebuild.Proofs.Reader.Shaped
import GoRebuild.Proofs.Text.Unquoted

/-!
# What the paths of imports denote

* `readItems_imports` : what the imports of a source are read to;
* `import_path_denotes_iff` : the path of an import denotes what its literal does exactly if the literal is plain.
-/

namespace GoRebuild
open Grammar Lexical Reading Text

/-! ## The imports of a source -/

namespace Grammar

variable (s : Setting)

theorem ValueSpec.read_import (x : ValueSpec) : Gives (x.read s) fun spec => spec.import? = none := by
  obtain ⟨_, _, t, vs⟩ := x
  exact .bind (.any (readOption s t)) fun _ _ => .bind (.any (readAll s vs)) fun _ _ => .pure rfl

theorem TypeSpec.read_import (x : TypeSpec) : Gives (x.read s) fun spec => spec.import? = none := by
  obtain ⟨_, _ | params, _, t⟩ := x
  · exact .bind (.any (t.read s)) fun _ _ => .pure rfl
  · exact .refuse s _ params

theorem readValueSpecs_imports (xs : List ValueSpec) :
    Gives (readValueSpecs s xs) fun specs => specs.filterMap Spec.import? = [] := by
  induction xs with
  | nil => exact .pure rfl
  | cons x xs ih =>
    exact .bind (x.read_import s) fun _ hspec => .bind ih fun _ hspecs =>
      .pure ((List.filterMap_cons_none hspec).trans hspecs)

theorem readTypeSpecs_imports (xs : List TypeSpec) :
    Gives (readTypeSpecs s xs) fun specs => specs.filterMap Spec.import? = [] := by
  induction xs with
  | nil => exact .pure rfl
  | cons x xs ih =>
    exact .bind (x.read_import s) fun _ hspec => .bind ih fun _ hspecs =>
      .pure ((List.filterMap_cons_none hspec).trans hspecs)

/-- A declaration that may stand in a function holds no imports. -/
theorem Decl.read_imports (start : Place) (d : Decl) :
    Gives (d.read s start) fun d' => (GoRebuild.Decl.gen d').imports = [] := by
  cases d with
  | value _ x _ => exact .bind (x.read_import s) fun _ h => .pure (List.filterMap_cons_none h)
  | values _ xs _ => exact .bind (readValueSpecs_imports s xs) fun _ h => .pure h
  | type x _ => exact .bind (x.read_import s) fun _ h => .pure (List.filterMap_cons_none h)
  | types xs _ => exact .bind (readTypeSpecs_imports s xs) fun _ h => .pure h

theorem Item.read_imports (i : Item) :
    Gives (i.read s) fun t => t.decl?.toList.flatMap GoRebuild.Decl.imports = i.specs.map (Import.read s) := by
  cases i with
  | package n => exact .pure rfl
  | importOne i start => exact .pure rfl
  | imports is start =>
    refine .pure ?_
    induction is with
    | nil => rfl
    | cons i is ih => exact congrArg (i.read s :: ·) ih
  | func f => exact .bind (.any (f.read s)) fun _ _ => .pure rfl
  | stmt x =>
    obtain ⟨k, p⟩ := x
    cases k with
    | decl d => exact .bind (d.read_imports s p) fun _ h => .pure ((List.flatMap_singleton _ _).trans h)
    | _ => exact .refuse s _ _

theorem readItems_imports : ∀ items : List Item, Gives (items.mapM fun i : Item => i.read s) fun parts =>
    (parts.filterMap TopLevel.decl?).flatMap GoRebuild.Decl.imports =
      (items.flatMap Item.specs).map (Import.read s)
  | [] => .pure rfl
  | i :: is => by
    rw [List.mapM_cons]
    refine .bind (i.read_imports s) fun t ht => .bind (readItems_imports is) fun ts hts => .pure ?_
    rw [List.flatMap_cons, List.map_append, ← ht, ← hts]
    cases t with
    | package n => rfl
    | decl d => exact congrArg (· ++ _) (List.append_nil _).symm

end Grammar

/-! ## Paths -/

/-- An import as it is read: its name, and the literal of its path without the quotes at the ends. The path is what the
literal denotes, and what is written for the path denotes it, exactly if the literal is plain. -/
structure Grammar.Import.ReadAs (i : Import) (spec : ImportSpec) : Prop where
  name : spec.name = i.name
  path : spec.path = unquoted i.path
  denotes : stringValue? i.path = some spec.path.toUTF8 ↔ isPlain i.path
  written : stringValue? (Quoted.encode spec.path) = stringValue? i.path ↔ isPlain i.path

/-- A path of a table: a local name stands for it, it has a name before it, or it is imported for its side effects. -/
def SymbolTable.HasPath (t : SymbolTable) (path : String) : Prop :=
  (∃ name, t.resolve name = some path) ∨ path ∈ t.explicit.map (·.1) ∨ path ∈ t.anonymous

theorem SymbolTable.Tells.exists_of_hasPath {t : SymbolTable} {imports : List ImportSpec} {path : String}
    (h : t.Tells imports) (hpath : t.HasPath path) : ∃ spec ∈ imports, spec.path = path := by
  rcases hpath with ⟨name, hname⟩ | hexplicit | hanonymous
  · obtain ⟨before, spec, after, rfl, -, hpath, -⟩ := h.resolve_eq_some_iff.mp hname
    exact ⟨spec, List.mem_append_right before List.mem_cons_self, hpath⟩
  · rw [h.explicit] at hexplicit
    obtain ⟨pair, hpair, rfl⟩ := List.mem_map.mp hexplicit
    obtain ⟨spec, hspec, halias⟩ := List.mem_filterMap.mp hpair
    unfold ImportSpec.explicitAlias? at halias
    split at halias
    · cases halias
      exact ⟨spec, hspec, rfl⟩
    · cases halias
  · rw [h.anonymous] at hanonymous
    obtain ⟨spec, hspec, rfl⟩ := List.mem_map.mp hanonymous
    exact ⟨spec, (List.mem_filter.mp hspec).1, rfl⟩

/-- **What the path of an import denotes.** The imports of a file are those of its source in order, and their paths are
string literals there. The path that is kept, the path that the symbol table has and the literal that is written for it
all denote what the literal in the source does exactly if that literal is plain: no escape in it, no carriage return
between backquotes, and no quote behind its first or before its last. -/
theorem import_path_denotes_iff {parser : SourceParser} (hparser : parser.FollowsGrammar) {limit : Nat} {source : String}
    {f : File} (h : File.read parser limit source = .ok f) :
    ∃ tokens, scan source = some tokens ∧ (∃ items pos, parser.Derives source items pos) ∧
      ∀ items pos, parser.Derives source items pos →
        (∀ i ∈ items.flatMap Item.specs, ∃ t ∈ tokens, t.1.kind = .literal .string ∧ t.1.text = i.path) ∧
        List.Forall₂ Import.ReadAs (items.flatMap Item.specs) f.imports ∧
        ∀ table, SymbolTable.build f.imports = .ok table → ∀ path, table.HasPath path →
          ∃ i ∈ items.flatMap Item.specs, path = unquoted i.path ∧
            (stringValue? (Quoted.encode path) = stringValue? i.path ↔ isPlain i.path) := by
  obtain ⟨items, pos, hderives⟩ := File.exists_derivation hparser h
  obtain ⟨tokens, hscan, -⟩ := hderives.tokens
  refine ⟨tokens, hscan, ⟨items, pos, hderives⟩, fun items pos hderives => ?_⟩
  obtain ⟨tokens', hscan', hspell⟩ := hderives.tokens
  cases hscan.symm.trans hscan'
  obtain ⟨parts, hparts, hfile⟩ := File.parts_of_read hderives h
  have hliteral : ∀ i ∈ items.flatMap Item.specs, ∃ t ∈ tokens, t.1.kind = .literal .string ∧ t.1.text = i.path := by
    intro i hi
    obtain ⟨t, ht, hkind, htext⟩ := hspell.literals i hi
    obtain ⟨u, hu, rfl⟩ := List.mem_map.mp ht
    exact ⟨u, hu, hkind, htext⟩
  have himports := readItems_imports _ items 0 parts hparts
  dsimp only at himports
  rw [← decls_of_ofParts hfile, ← imports_of_ofParts hfile] at himports
  have hdenotes : ∀ i ∈ items.flatMap Item.specs,
      (stringValue? i.path = some (unquoted i.path).toUTF8 ↔ isPlain i.path) := by
    intro i hi
    obtain ⟨t, ht, hkind, htext⟩ := hliteral i hi
    have hwhole : lexeme? t.1.text.toList = some (t.1.kind, t.1.text.length) := (tokens_of_scan hscan).1 t ht
    rw [hkind, htext, ← String.length_toList] at hwhole
    exact stringValue_unquoted_iff (isLiteral_of_lexeme hwhole)
  have hwritten : ∀ i ∈ items.flatMap Item.specs,
      (stringValue? (Quoted.encode (unquoted i.path)) = stringValue? i.path ↔ isPlain i.path) := by
    intro i hi
    rw [stringValue_encode, eq_comm]
    exact hdenotes i hi
  refine ⟨hliteral, ?_, fun table htable path hpath => ?_⟩
  · rw [himports, List.forall₂_map_right_iff, List.forall₂_same]
    exact fun i hi => ⟨rfl, rfl, hdenotes i hi, hwritten i hi⟩
  · obtain ⟨spec, hspec, rfl⟩ := (SymbolTable.tells_of_build htable).exists_of_hasPath hpath
    rw [himports] at hspec
    obtain ⟨i, hi, rfl⟩ := List.mem_map.mp hspec
    exact ⟨i, hi, rfl, hwritten i hi⟩

/-- An escape is kept, and with it another path. -/
theorem import_path_denotes_iff_escape :
    ∃ f, File.read Grammar.parser 256 "package p\nimport \x22\\x66mt\x22" = .ok f ∧ f.imports.map (·.path) = ["\\x66mt"] ∧
      stringValue? "\x22\\x66mt\x22" = some "fmt".toUTF8 ∧
      ∃ items : List Item, List.Forall₂ Import.ReadAs (items.flatMap Item.specs) f.imports := by
  generalize hsource : "package p\nimport \x22\\x66mt\x22" = source
  have hpaths : (File.read Grammar.parser 256 source).toOption.map (fun f => f.imports.map (·.path)) = some ["\\x66mt"] := by
    rw [← hsource]
    decide +kernel
  cases hf : File.read Grammar.parser 256 source with
  | error e =>
    rw [hf] at hpaths
    cases hpaths
  | ok f =>
    rw [hf] at hpaths
    obtain ⟨_, -, ⟨items, pos, hderives⟩, hall⟩ := import_path_denotes_iff parser_followsGrammar hf
    obtain ⟨-, hread, -⟩ := hall items pos hderives
    exact ⟨f, rfl, Option.some.inj hpaths, by decide +kernel, items, hread⟩

end GoRebuild
