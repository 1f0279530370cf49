import GoRebuild.Symbols
import Mathlib.Data.List.Basic

/-!
# What the table of a list of imports says

* `ImportSpec.localName?` : the name that an import binds, if it binds one;
* `ImportSpec.Offends`, `FirstOffence` : an import that cannot stand behind others, and the first such import of a list;
* `SymbolTable.Tells t imports` : a table lists what some imports say, none of which offends;
* `SymbolTable.Tells.add`, `SymbolTable.Tells.run` : one more import and all imports of a list are taken in, or one offends;
* `SymbolTable.Describes t imports` : what can be looked up in a table is what the imports say;
* `imports_bind_apart` : a list of imports has no table exactly if one of them offends, and else its table describes it.
-/

namespace GoRebuild

namespace ImportSpec

/-- The local name that an import binds: that before its path, or else that which the path implies. Imports for their side
effects bind no name, and dot imports none that is known. -/
def localName? (i : ImportSpec) : Option String :=
  match i.name with
  | some (.named name) => some name
  | some .dot | some .blank => none
  | none => some (defaultAlias i.path)

/-- The path with the name that is written before it. -/
def explicitAlias? (i : ImportSpec) : Option (String × String) :=
  match i.name with
  | some (.named name) => some (i.path, name)
  | _ => none

/-- Whether it is an import for its side effects. -/
def isBlank (i : ImportSpec) : Bool :=
  i.name = some .blank

/-- The local name that an import binds, with its path. -/
def binding? (i : ImportSpec) : Option (String × String) :=
  i.localName?.map fun name => (name, i.path)

/-- An import that cannot stand behind others: a dot import, or one whose local name is taken. A name that is taken is
told with the path that has it. -/
def Offends (before : List ImportSpec) (i : ImportSpec) (e : SynthError) : Prop :=
  i.name = some .dot ∧ e = .dotImport i.path i.pos ∨
    ∃ name, i.localName? = some name ∧
      ∃ first ∈ before, first.localName? = some name ∧ e = .duplicateAlias name first.path i.path i.pos

end ImportSpec

/-- No import offends. -/
def Unoffending (imports : List ImportSpec) : Prop :=
  ∀ before i after, imports = before ++ i :: after → ∀ e, ¬i.Offends before e

/-- The first import that offends does so with this failure. -/
def FirstOffence (imports : List ImportSpec) (e : SynthError) : Prop :=
  ∃ before i after, imports = before ++ i :: after ∧ Unoffending before ∧ i.Offends before e

theorem unoffending_nil : Unoffending [] := by
  intro before i after h
  cases before <;> cases h

theorem Unoffending.append {imports : List ImportSpec} {i : ImportSpec} (h : Unoffending imports)
    (hi : ∀ e, ¬i.Offends imports e) : Unoffending (imports ++ [i]) := by
  intro before j after hsplit
  rcases List.eq_nil_or_concat after with rfl | ⟨after, k, rfl⟩
  · obtain ⟨rfl, hij⟩ := List.append_inj' hsplit rfl
    cases hij
    exact hi
  · rw [List.concat_eq_append, ← List.cons_append, ← List.append_assoc] at hsplit
    exact h before j after (List.append_inj' hsplit rfl).1

/-- Of imports that do not offend no two bind one name. -/
theorem Unoffending.name_ne {before after : List ImportSpec} {i j : ImportSpec} {name : String}
    (h : Unoffending (before ++ i :: after)) (hi : i.localName? = some name) (hj : j ∈ before ++ after) :
    j.localName? ≠ some name := by
  intro hname
  rcases List.mem_append.mp hj with hj | hj
  · exact h before i after rfl _ (.inr ⟨name, hi, j, hj, hname, rfl⟩)
  · obtain ⟨between, rest, rfl⟩ := List.append_of_mem hj
    refine h (before ++ i :: between) j rest (by simp) _ (.inr ⟨name, hname, i, ?_, hi, rfl⟩)
    exact List.mem_append_right before List.mem_cons_self

namespace SymbolTable

theorem bind_of_bound {t : SymbolTable} {i : ImportSpec} {name first : String} (h : t.resolve name = some first) :
    t.bind name i = .error (.duplicateAlias name first i.path i.pos) := by
  rw [bind, h]

theorem bind_of_free {t : SymbolTable} {i : ImportSpec} {name : String} (h : t.resolve name = none) :
    t.bind name i = .ok { t with paths := t.paths ++ [(name, i.path)] } := by
  rw [bind, h]

/-- The table lists what imports say, and none of them offends. -/
structure Tells (t : SymbolTable) (imports : List ImportSpec) : Prop where
  paths : t.paths = imports.filterMap ImportSpec.binding?
  explicit : t.explicit = imports.filterMap ImportSpec.explicitAlias?
  anonymous : t.anonymous = (imports.filter ImportSpec.isBlank).map ImportSpec.path
  unoffending : Unoffending imports

namespace Tells

variable {t : SymbolTable} {imports before after : List ImportSpec} {i : ImportSpec} {name path : String}

theorem nil : Tells {} [] :=
  ⟨rfl, rfl, rfl, unoffending_nil⟩

/-- A name that no import binds is not known. -/
theorem resolve_eq_none_iff (h : t.Tells imports) :
    t.resolve name = none ↔ ∀ i ∈ imports, i.localName? ≠ some name := by
  rw [resolve, h.paths, List.lookup_eq_none_iff]
  constructor
  · intro hall i hi hname
    have hne := hall (name, i.path) (List.mem_filterMap.mpr ⟨i, hi, by rw [ImportSpec.binding?, hname]; rfl⟩)
    exact bne_iff_ne.mp hne rfl
  · intro hall p hp
    obtain ⟨i, hi, hbinding⟩ := List.mem_filterMap.mp hp
    obtain ⟨n, hname, rfl⟩ := Option.map_eq_some_iff.mp hbinding
    refine bne_iff_ne.mpr ?_
    rintro rfl
    exact hall i hi hname

/-- A name stands for the path of the import that binds it. -/
theorem resolve_eq (h : t.Tells (before ++ i :: after)) (hi : i.localName? = some name) : t.resolve name = some i.path := by
  rw [resolve, h.paths, List.filterMap_append, List.lookup_append, List.lookup_eq_none_iff.mpr,
    List.filterMap_cons_some (by rw [ImportSpec.binding?, hi]; rfl), List.lookup_cons_self, Option.none_or]
  intro p hp
  obtain ⟨j, hj, hbinding⟩ := List.mem_filterMap.mp hp
  obtain ⟨n, hname, rfl⟩ := Option.map_eq_some_iff.mp hbinding
  refine bne_iff_ne.mpr ?_
  rintro rfl
  exact h.unoffending.name_ne hi (List.mem_append_left after hj) hname

/-- A name that is known stands for the path of the one import that binds it. -/
theorem resolve_eq_some_iff (h : t.Tells imports) :
    t.resolve name = some path ↔
      ∃ before i after, imports = before ++ i :: after ∧ i.localName? = some name ∧ i.path = path ∧
        ∀ j ∈ before ++ after, j.localName? ≠ some name := by
  constructor
  · intro hresolve
    have hbound : ¬∀ i ∈ imports, i.localName? ≠ some name := by
      rw [← h.resolve_eq_none_iff, hresolve]
      simp
    push Not at hbound
    obtain ⟨i, hi, hname⟩ := hbound
    obtain ⟨before, after, rfl⟩ := List.append_of_mem hi
    rw [h.resolve_eq hname, Option.some.injEq] at hresolve
    exact ⟨before, i, after, rfl, hname, hresolve, fun j hj => h.unoffending.name_ne hname hj⟩
  · rintro ⟨before, i, after, rfl, hname, rfl, -⟩
    exact h.resolve_eq hname

/-! ## One more import -/

/-- A name that is free is bound by the import that brings it. -/
theorem bind (h : t.Tells imports) (hname : i.localName? = some name) (hblank : i.isBlank = false)
    (hdot : i.name ≠ some .dot) {explicit : List (String × String)}
    (hexplicit : explicit = t.explicit ++ [i].filterMap ImportSpec.explicitAlias?) :
    (∃ u, ({ t with explicit := explicit } : SymbolTable).bind name i = .ok u ∧ u.Tells (imports ++ [i])) ∨
      ∃ e, ({ t with explicit := explicit } : SymbolTable).bind name i = .error e ∧ i.Offends imports e := by
  cases hresolve : t.resolve name with
  | some first =>
    obtain ⟨before, j, after, rfl, hj, rfl, -⟩ := h.resolve_eq_some_iff.mp hresolve
    exact .inr ⟨_, bind_of_bound hresolve, .inr ⟨name, hname, j, List.mem_append_right before List.mem_cons_self, hj, rfl⟩⟩
  | none =>
    have hfree := h.resolve_eq_none_iff.mp hresolve
    refine .inl ⟨_, bind_of_free hresolve, ?_, ?_, ?_, h.unoffending.append ?_⟩
    · rw [h.paths, List.filterMap_append, List.filterMap_cons_some (by rw [ImportSpec.binding?, hname]; rfl)]
      rfl
    · rw [hexplicit, h.explicit, List.filterMap_append]
    · rw [h.anonymous, List.filter_append, List.filter_cons_of_neg (by rw [hblank]; decide), List.filter_nil,
        List.append_nil]
    · rintro e (⟨hdots, -⟩ | ⟨n, hn, first, hfirst, hsame, -⟩)
      · exact hdot hdots
      · exact hfree first hfirst (hsame.trans (hn.symm.trans hname))

/-- One more import is taken in, or it offends. -/
theorem add (h : t.Tells imports) (i : ImportSpec) :
    (∃ u, t.add i = .ok u ∧ u.Tells (imports ++ [i])) ∨ ∃ e, t.add i = .error e ∧ i.Offends imports e := by
  obtain ⟨n, path, pos⟩ := i
  unfold SymbolTable.add
  rcases n with _ | name | _ | _
  · exact h.bind rfl rfl (by simp) (List.append_nil t.explicit).symm
  · exact h.bind rfl rfl (by simp) rfl
  · exact .inr ⟨_, rfl, .inl ⟨rfl, rfl⟩⟩
  · refine .inl ⟨_, rfl, ?_, ?_, ?_, h.unoffending.append ?_⟩
    · rw [h.paths, List.filterMap_append]
      exact (List.append_nil _).symm
    · rw [h.explicit, List.filterMap_append]
      exact (List.append_nil _).symm
    · rw [h.anonymous, List.filter_append, List.map_append]
      rfl
    · rintro e (⟨hdots, -⟩ | ⟨n, hn, -⟩)
      · cases hdots
      · cases hn

/-- All imports of a list are taken in, or the first that offends ends it. -/
theorem run (h : t.Tells before) (imports : List ImportSpec) :
    (∃ u, imports.foldlM SymbolTable.add t = .ok u ∧ u.Tells (before ++ imports)) ∨
      ∃ e, imports.foldlM SymbolTable.add t = .error e ∧ FirstOffence (before ++ imports) e := by
  induction imports generalizing t before with
  | nil => exact .inl ⟨t, rfl, by rwa [List.append_nil]⟩
  | cons i imports ih =>
    rw [List.foldlM_cons]
    rcases h.add i with ⟨u, hu, htells⟩ | ⟨e, he, hoffends⟩
    · rw [hu, List.append_cons]
      exact ih htells
    · rw [he]
      exact .inr ⟨e, rfl, before, i, imports, rfl, h.unoffending, hoffends⟩

end Tells

/-! ## All imports -/

theorem build_tells (imports : List ImportSpec) :
    (∃ t, build imports = .ok t ∧ t.Tells imports) ∨ ∃ e, build imports = .error e ∧ FirstOffence imports e :=
  Tells.nil.run imports

theorem build_eq_error_iff {imports : List ImportSpec} {e : SynthError} :
    build imports = .error e ↔ FirstOffence imports e := by
  constructor
  · intro he
    rcases build_tells imports with ⟨t, ht, -⟩ | ⟨e', he', hfirst⟩
    · rw [he] at ht
      cases ht
    · rw [he, Except.error.injEq] at he'
      exact he' ▸ hfirst
  · rintro ⟨before, i, after, rfl, hunoffending, hoffends⟩
    rcases build_tells before with ⟨t, ht, htells⟩ | ⟨e', -, b, j, a, rfl, -, hj⟩
    · have hadd : t.add i = .error e := by
        obtain ⟨n, path, pos⟩ := i
        rcases hoffends with ⟨hdot, rfl⟩ | ⟨name, hname, first, hfirst, hsame, rfl⟩
        · obtain rfl : n = some .dot := hdot
          rfl
        · obtain ⟨b, a, rfl⟩ := List.append_of_mem hfirst
          have hresolve := htells.resolve_eq hsame
          rcases n with _ | _ | _ | _ <;> cases hname
          · exact bind_of_bound hresolve
          · exact bind_of_bound hresolve
      unfold build at ht ⊢
      rw [List.foldlM_append, ht]
      change (i :: after).foldlM SymbolTable.add t = _
      rw [List.foldlM_cons, hadd]
      rfl
    · exact absurd hj (hunoffending b j a rfl e')

/-- What can be looked up in a table is what imports say. -/
structure Describes (t : SymbolTable) (imports : List ImportSpec) : Prop where
  /-- A name that is known stands for the path of the one import that binds it. -/
  known : ∀ name path, t.resolve name = some path ↔
    ∃ before i after, imports = before ++ i :: after ∧ i.localName? = some name ∧ i.path = path ∧
      ∀ j ∈ before ++ after, j.localName? ≠ some name
  /-- Any name that an import binds is known, and no other. -/
  unknown : ∀ name, t.resolve name = none ↔ ∀ i ∈ imports, i.localName? ≠ some name
  anonymous : t.anonymous = (imports.filter ImportSpec.isBlank).map ImportSpec.path
  explicit : t.explicit = imports.filterMap ImportSpec.explicitAlias?
  size : t.size = imports.countP fun i => !i.isBlank

theorem Tells.size {t : SymbolTable} {imports : List ImportSpec} (h : t.Tells imports) :
    t.size = imports.countP fun i => !i.isBlank := by
  have hbinds : ∀ i ∈ imports, (i.binding?).isSome = !i.isBlank := by
    rintro ⟨n, path, pos⟩ hi
    rcases n with _ | _ | _ | _
    · rfl
    · rfl
    · obtain ⟨before, after, rfl⟩ := List.append_of_mem hi
      exact absurd (.inl ⟨rfl, rfl⟩) (h.unoffending before _ after rfl _)
    · rfl
  rw [SymbolTable.size, h.paths, List.length_filterMap_eq_countP]
  exact List.countP_congr fun i hi => by rw [hbinds i hi]

end SymbolTable

/-- Two of the imports bind one name. -/
def Clashing (imports : List ImportSpec) : Prop :=
  ∃ before i between j after name, imports = before ++ i :: (between ++ j :: after) ∧ i.localName? = some name ∧
    j.localName? = some name

theorem exists_firstOffence_iff (imports : List ImportSpec) :
    (∃ e, FirstOffence imports e) ↔ (∃ i ∈ imports, i.name = some .dot) ∨ Clashing imports := by
  constructor
  · rintro ⟨e, before, i, after, rfl, -, ⟨hdot, -⟩ | ⟨name, hname, first, hfirst, hsame, -⟩⟩
    · exact .inl ⟨i, List.mem_append_right before List.mem_cons_self, hdot⟩
    · obtain ⟨start, between, rfl⟩ := List.append_of_mem hfirst
      exact .inr ⟨start, first, between, i, after, name, by simp, hsame, hname⟩
  · intro h
    by_contra hnone
    obtain ⟨t, -, htells⟩ | ⟨e, -, hfirst⟩ := SymbolTable.build_tells imports
    · rcases h with ⟨i, hi, hdot⟩ | ⟨before, i, between, j, after, name, rfl, hname, hsame⟩
      · obtain ⟨before, after, rfl⟩ := List.append_of_mem hi
        exact htells.unoffending before i after rfl _ (.inl ⟨hdot, rfl⟩)
      · refine htells.unoffending.name_ne hname (List.mem_append_right before ?_) hsame
        exact List.mem_append_right between List.mem_cons_self
    · exact hnone ⟨e, hfirst⟩

/-- **Imports bind names apart.** A list of imports has no table exactly if it has a dot import or two imports that bind one
name, imports for their side effects left out; it fails for the first import that offends, a name that is taken being told
with the path that has it, the path that wants it and where that stands. Otherwise its table describes it. -/
theorem imports_bind_apart (imports : List ImportSpec) :
    ((∃ e, SymbolTable.build imports = .error e) ↔ (∃ i ∈ imports, i.name = some .dot) ∨ Clashing imports) ∧
    (∀ e, SymbolTable.build imports = .error e ↔ FirstOffence imports e) ∧
    ∀ t, SymbolTable.build imports = .ok t → t.Describes imports := by
  refine ⟨?_, fun e => SymbolTable.build_eq_error_iff, fun t ht => ?_⟩
  · simp only [SymbolTable.build_eq_error_iff, exists_firstOffence_iff]
  · rcases SymbolTable.build_tells imports with ⟨u, hu, htells⟩ | ⟨e, he, -⟩
    · rw [hu, Except.ok.injEq] at ht
      subst ht
      exact ⟨fun _ _ => htells.resolve_eq_some_iff, fun _ => htells.resolve_eq_none_iff, htells.anonymous,
        htells.explicit, htells.size⟩
    · rw [he] at ht
      cases ht

end GoRebuild
