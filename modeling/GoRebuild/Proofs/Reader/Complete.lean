import GoRebuild.Proofs.Nesting.Reading
import GoRebuild.Proofs.Reader.Tokens

/-!
# Every program of the grammar is read

* `Reading.Follows.answers_iff`, `Reading.Follows.failure`, `Reading.Follows.refuses` : what comes of a reading
  along an outline;
* `outlineAll`, `follows_readAll` : the items of a source are read along their outlines, one after the other;
* `File.ofParts_total` : with a package clause the parts are a file, without one they are refused for that;
* `File.failure_of_read` : what reading a source with a derivation fails for;
* `reading_complete` : from some limit on it is read, unless a construct is refused or the package clause is missing, and
  no limit brings other failures.
-/

namespace GoRebuild
open Outline
open Lexical (Place)

namespace Reading

variable {α : Type} {s : Setting} {act : Reading α} {o : Outline Place}

theorem Follows.answers_iff (h : Follows s act o) :
    (∃ a, act.run 0 = .ok a) ↔ o.refusals = [] ∧ o.height ≤ s.limit := by
  have hact : (act.run 0).map (fun _ => ()) = _ := h 0
  have hwalk := @walk_eq_ok_iff _ s.limit 0 o
  rw [Nat.sub_zero] at hwalk
  rw [← hwalk]
  constructor
  · rintro ⟨a, ha⟩
    rw [ha] at hact
    cases hw : o.walk s.limit 0 with
    | ok u => rfl
    | error e =>
      rw [hw] at hact
      cases hact
  · intro hw
    rw [hw] at hact
    cases ha : act.run 0 with
    | ok a => exact ⟨a, rfl⟩
    | error e =>
      rw [ha] at hact
      cases hact

/-- A reading fails for a refusal of its outline, or because that is higher than the limit. -/
theorem Follows.failure (h : Follows s act o) {e : ReadError} (he : act.run 0 = .error e) :
    (∃ kind place, e = .unsupported kind (s.pos place) ∧ (kind, place) ∈ o.refusals) ∨
      ∃ place, e = .tooDeep s.limit (s.pos place) ∧ s.limit < o.height := by
  have hact : (act.run 0).map (fun _ => ()) = _ := h 0
  rw [he] at hact
  cases hw : o.walk s.limit 0 with
  | ok u =>
    rw [hw] at hact
    cases hact
  | error stop =>
    rw [hw] at hact
    cases stop with
    | refused kind place =>
      cases hact
      exact .inl ⟨kind, place, rfl, mem_refusals_of_walk hw⟩
    | tooDeep place =>
      cases hact
      have hheight := lt_height_of_walk hw
      exact .inr ⟨place, rfl, by omega⟩

/-- With levels enough, a reading along an outline with refusals ends at one of them. -/
theorem Follows.refuses (h : Follows s act o) (hheight : o.height ≤ s.limit) (hrefusals : o.refusals ≠ []) :
    ∃ kind place, act.run 0 = .error (.unsupported kind (s.pos place)) ∧ (kind, place) ∈ o.refusals := by
  cases hact : act.run 0 with
  | ok a => exact absurd (h.answers_iff.mp ⟨a, hact⟩).1 hrefusals
  | error e =>
    rcases h.failure hact with ⟨kind, place, rfl, hmem⟩ | ⟨place, -, hlt⟩
    · exact ⟨kind, place, rfl, hmem⟩
    · omega

end Reading

open Grammar Lexical Reading

/-! ## The items of a source -/

/-- What reading comes across in items, one after the other. -/
def outlineAll : List Item → Outline Place
  | [] => done
  | i :: is => i.outline ++ outlineAll is

theorem follows_readAll (s : Setting) (items : List Item) :
    Follows s (items.mapM fun i : Item => i.read s) (outlineAll items) := by
  induction items with
  | nil => exact .pure _
  | cons i is ih =>
    rw [List.mapM_cons]
    exact (i.follows_read s).bind fun _ => ih.map _

/-- What items are refused for is a generic construct, or a statement at top level. -/
theorem refuses_outlineAll (items : List Item) :
    (outlineAll items).Refuses fun kind =>
      IsGeneric kind ∨ ∃ i ∈ items, ∃ x, i.stray? = some x ∧ kind = x.kindName := by
  induction items with
  | nil => exact .done
  | cons i is ih =>
    refine .append (i.refuses.mono ?_) (ih.mono ?_)
    · rintro kind (h | ⟨x, hx, rfl⟩)
      · exact .inl h
      · exact .inr ⟨i, List.mem_cons_self, x, hx, rfl⟩
    · rintro kind (h | ⟨j, hj, h⟩)
      · exact .inl h
      · exact .inr ⟨j, List.mem_cons_of_mem i hj, h⟩

/-- Parts of items are a file exactly if one of the items is a package clause, and are refused for the lack of one
otherwise. -/
theorem File.ofParts_total {items : List Item} {parts : List TopLevel} (h : AgreeTops items parts) :
    if items.any Item.isPackage then ∃ f, File.ofParts parts = .ok f else File.ofParts parts = .error .noPackage := by
  have hnone : (parts.filterMap TopLevel.package?) = [] ↔ items.any Item.isPackage = false := by
    rw [List.any_eq_false]
    constructor
    · intro hnone
      simpa using (h.rows hnone).2
    · intro hall
      exact h.no_package (by simpa using hall)
  cases hlast : (parts.filterMap TopLevel.package?).getLast? with
  | none =>
    rw [List.getLast?_eq_none_iff] at hlast
    simp [File.ofParts, hlast, hnone.mp hlast]
  | some m =>
    have hany : items.any Item.isPackage = true := by
      rw [← Bool.not_eq_false, ← hnone]
      intro hnil
      rw [hnil] at hlast
      cases hlast
    simp [File.ofParts, hlast, hany]

/-! ## Sources -/

/-- A node that lacks what its reader asks for, or that no reader knows. -/
def ReadError.IsMisfit : ReadError → Prop
  | missingField _ _ _ | emptyNode _ _ | unexpectedNode _ _ _ => True
  | gaveUp | badSyntax _ | noPackage | unsupported _ _ | tooDeep _ _ => False

section
variable {parser : SourceParser} {source : String} {items : List Item} {pos : Place → Pos}

/-- A source with a derivation fails for a construct that is refused, for nesting beyond the limit or for the lack of a
package clause. -/
theorem File.failure_of_read (h : parser.Derives source items pos) {limit : Nat} {e : ReadError}
    (he : File.read parser limit source = .error e) :
    (∃ kind p, e = .unsupported kind p ∧ (IsGeneric kind ∨ ∃ i ∈ items, ∃ x, i.stray? = some x ∧ kind = x.kindName)) ∨
    (∃ p, e = .tooDeep limit p ∧ limit < (outlineAll items).height) ∨
    (e = .noPackage ∧ ¬items.any Item.isPackage) := by
  rw [File.read_derived h] at he
  cases hparts : (items.mapM fun i : Item => i.read ⟨pos, limit⟩).run 0 with
  | error e' =>
    rw [hparts] at he
    cases he
    rcases (follows_readAll _ items).failure hparts with ⟨kind, place, rfl, hmem⟩ | ⟨place, rfl, hlt⟩
    · exact .inl ⟨kind, _, rfl, refuses_outlineAll items _ hmem⟩
    · exact .inr (.inl ⟨_, rfl, hlt⟩)
  | ok parts =>
    rw [hparts] at he
    change File.ofParts parts = .error e at he
    have htotal := File.ofParts_total (readAllItems_agrees _ items 0 parts hparts)
    split at htotal
    · obtain ⟨f, hf⟩ := htotal
      rw [hf] at he
      cases he
    · rename_i hpackage
      rw [htotal] at he
      cases he
      exact .inr (.inr ⟨rfl, hpackage⟩)

/-- With levels enough and nothing refused, the items are read. -/
theorem File.read_within (h : parser.Derives source items pos) {limit : Nat} (hlimit : (outlineAll items).height ≤ limit)
    (hnone : (outlineAll items).refusals = []) :
    if items.any Item.isPackage then ∃ f, File.read parser limit source = .ok f
    else File.read parser limit source = .error .noPackage := by
  obtain ⟨parts, hparts⟩ := (follows_readAll ⟨pos, limit⟩ items).answers_iff.mpr ⟨hnone, hlimit⟩
  rw [File.read_derived h, hparts]
  exact File.ofParts_total (readAllItems_agrees _ items 0 parts hparts)

/-- **Every program of the grammar is read.** From some limit on, a source with a package clause in which nothing is
refused is read; one in which something is refused fails for that, and one without a package clause fails
for the lack of it. Whatever the limit, it fails for nothing else than these and nesting beyond the limit: no node lacks
what its reader asks for, and none is of a kind that no reader knows. -/
theorem reading_complete (h : parser.Derives source items pos) :
    (∃ bound, ∀ limit, bound ≤ limit →
      ((outlineAll items).refusals = [] → items.any Item.isPackage → ∃ f, File.read parser limit source = .ok f) ∧
      ((outlineAll items).refusals = [] → ¬items.any Item.isPackage →
        File.read parser limit source = .error .noPackage) ∧
      ((outlineAll items).refusals ≠ [] → ∃ kind p, File.read parser limit source = .error (.unsupported kind p))) ∧
    ∀ limit e, File.read parser limit source = .error e →
      ((∃ kind p, e = .unsupported kind p ∧
          (IsGeneric kind ∨ ∃ i ∈ items, ∃ x, i.stray? = some x ∧ kind = x.kindName)) ∨
        (∃ p, e = .tooDeep limit p ∧ limit < (outlineAll items).height) ∨
        (e = .noPackage ∧ ¬items.any Item.isPackage)) ∧
      ¬e.IsMisfit := by
  constructor
  · refine ⟨(outlineAll items).height, fun limit hlimit => ⟨fun hnone hpackage => ?_, fun hnone hpackage => ?_,
      fun hrefusals => ?_⟩⟩
    · simpa only [if_pos hpackage] using File.read_within h hlimit hnone
    · simpa only [if_neg hpackage] using File.read_within h hlimit hnone
    · obtain ⟨kind, place, hfail, -⟩ := (follows_readAll ⟨pos, limit⟩ items).refuses hlimit hrefusals
      rw [File.read_derived h, hfail]
      exact ⟨kind, _, rfl⟩
  · intro limit e he
    have hfailure := File.failure_of_read h he
    refine ⟨hfailure, ?_⟩
    rcases hfailure with ⟨kind, p, rfl, -⟩ | ⟨p, rfl, -⟩ | ⟨rfl, -⟩ <;> exact id

end

/-- A source with a function is read from some limit on. -/
theorem reading_complete_function :
    ∃ bound, ∀ limit, bound ≤ limit → ∃ f, File.read Grammar.parser limit "package p\nfunc f() \x7b \x7d" = .ok f := by
  generalize hsource : "package p\nfunc f() \x7b \x7d" = source
  have hplain : ((scan source).bind fun tokens => items? (tokens.map (·.1))).map
      (fun items => ((outlineAll items).refusals.isEmpty, items.any Item.isPackage)) = some (true, true) := by
    rw [← hsource]
    decide +kernel
  obtain ⟨items, hitems, hplain⟩ := Option.map_eq_some_iff.mp hplain
  obtain ⟨tokens, hscan, hitems⟩ := Option.bind_eq_some_iff.mp hitems
  rw [Prod.mk.injEq, List.isEmpty_iff] at hplain
  obtain ⟨bound, hbound⟩ := (reading_complete (derives_of_items hscan hitems)).1
  exact ⟨bound, fun limit hlimit => (hbound limit hlimit).1 hplain.1 hplain.2⟩

end GoRebuild
