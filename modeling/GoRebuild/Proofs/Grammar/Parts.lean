import GoRebuild.Proofs.Grammar.Routine

/-!
# Parsing sources of imports and functions

* `Part.size` : how many tokens a part has at least;
* `parses_allItems` : parts on lines of their own are parsed to what was written;
* `exists_items` : so is a whole source of them.
-/

namespace GoRebuild.Grammar
open Lexical Scan

variable {l : Layer} {newLine : Bool} {bound k : Nat} {u v : Spelling} {us vs : List Spelling}

theorem parses_importSpec : ∀ i : Imported, i.isPlain → Parses importSpec (i.row newLine ++ us) us i.Forms
  | ⟨none, literal⟩, h => by
    rw [Imported.isPlain, Bool.and_eq_true] at h
    have hdot : literal ≠ "." := by
      rintro rfl
      cases h.2
    have hname : Fails importName (⟨.literal .string, literal, newLine⟩ :: us) :=
      .both (.bind (fails_take hdot)) (.bind (fails_takeName nofun))
    exact .bind parses_here fun start _ => .bind hname.optional fun name hname => .bind (parses_takeText rfl)
      fun path hpath => .pure ⟨hname, hpath⟩
  | ⟨some n, literal⟩, h => by
    rw [Imported.isPlain, Bool.and_eq_true, Option.all_some, Bool.and_eq_true] at h
    have hname : Parses importName (⟨.word, n, newLine⟩ :: inLine (.literal .string) literal :: us)
        (inLine (.literal .string) literal :: us) (· = .named n) := by
      refine Fails.orElse (.bind (fails_take (ne_of_word h.1.1 (by decide)))) (.bind (parses_takeName rfl) fun m hm =>
        .pure ?_)
      rw [hm, if_neg (bne_iff_ne.mp h.1.2)]
    refine .bind parses_here fun start _ => .bind hname.optional fun name hname => .bind (parses_takeText rfl)
      fun path hpath => .pure ⟨?_, hpath⟩
    obtain ⟨_, rfl, rfl⟩ := hname
    rfl

/-- The closing parenthesis of imports, on a line of its own. -/
def importsEnd : Spelling :=
  ⟨.symbol, ")", true⟩

/-- The first token of an import is no parenthesis. -/
theorem Imported.exists_row (i : Imported) (h : i.isPlain) :
    ∃ kind text rest, (∀ newLine, i.row newLine = ⟨kind, text, newLine⟩ :: rest) ∧ text ≠ "(" ∧ text ≠ ")" := by
  obtain ⟨name, literal⟩ := i
  rw [isPlain, Bool.and_eq_true] at h
  cases name with
  | none =>
    refine ⟨_, _, _, fun _ => rfl, ?_, ?_⟩
    all_goals
      rintro rfl
      cases h.2
  | some n =>
    rw [Option.all_some, Bool.and_eq_true] at h
    exact ⟨_, _, _, fun _ => rfl, ne_of_word h.1.1 (by decide), ne_of_word h.1.1 (by decide)⟩

theorem parses_entries : ∀ (is : List Imported) (newLine : Bool) (m : Nat), (∀ i ∈ is, i.isPlain) → is.length < m →
    Parses (entries importSpec ")" false m) (Imported.rows newLine is ++ importsEnd :: us) (importsEnd :: us)
      (List.Forall₂ Imported.Forms is)
  | [], _, m, _, hm => by
    obtain ⟨m, rfl⟩ : ∃ m', m = m' + 1 := ⟨m - 1, by omega⟩
    exact .ifTrue (parses_sees_self rfl) (.pure .nil)
  | i :: is, newLine, m, hplain, hm => by
    rw [List.length_cons] at hm
    obtain ⟨m, rfl⟩ : ∃ m', m = m' + 1 := ⟨m - 1, by omega⟩
    have hi := hplain i List.mem_cons_self
    obtain ⟨kind, text, rest, hrow, -, hclose⟩ := i.exists_row hi
    have hsees : Parses (sees ")") (i.row newLine ++ (Imported.rows true is ++ importsEnd :: us))
        (i.row newLine ++ (Imported.rows true is ++ importsEnd :: us)) (· = false) := by
      rw [hrow]
      exact parses_sees_not hclose
    rw [Imported.rows, List.append_assoc]
    cases is with
    | nil =>
      have hmore := parses_entries [] true m nofun (by omega)
      refine .ifFalse hsees (.bind (parses_importSpec i hi) fun x hx => .bind (parses_sees_self rfl) fun b hb => ?_)
      rw [hb]
      exact .bind hmore fun xs hxs => .pure (.cons hx hxs)
    | cons i' is =>
      have hi' := hplain i' (List.mem_cons_of_mem i List.mem_cons_self)
      have hmore := parses_entries (i' :: is) false m (fun j hj => hplain j (List.mem_cons_of_mem i hj)) (by omega)
      obtain ⟨kind', text', rest', hrow', -, hclose'⟩ := i'.exists_row hi'
      rw [Imported.rows, hrow'] at hmore hsees ⊢
      refine .ifFalse hsees (.bind (parses_importSpec i hi) fun x hx => .bind (parses_sees_not hclose') fun b hb => ?_)
      rw [hb]
      exact .bind (parses_takeEnd rfl) fun _ _ => .bind hmore fun xs hxs => .pure (.cons hx hxs)

namespace Part

/-- How many tokens a part has at least. -/
def size : Part → Nat
  | package _ | importOne _ => 0
  | imports is => is.length
  | routine r => Line.sizes r.body

theorem length_le_rows (newLine : Bool) : ∀ is : List Imported, is.length ≤ (Imported.rows newLine is).length
  | [] => Nat.le_refl _
  | i :: is => by
    have hrow : 1 ≤ (i.row newLine).length := by
      obtain ⟨_ | _, _⟩ := i <;> simp [Imported.row]
    have := length_le_rows true is
    rw [Imported.rows, List.length_cons, List.length_append]
    omega

theorem size_le (newLine : Bool) : ∀ p : Part, p.size ≤ (p.row newLine).length
  | package _ | importOne _ => Nat.zero_le _
  | imports is => by
    have := length_le_rows true is
    simp only [size, row, List.length_cons, List.length_append]
    omega
  | routine r => by
    have := Line.sizes_le true r.body
    simp only [size, row, Routine.row, List.length_cons, List.length_append]
    omega

/-- No part is longer than all parts are. -/
theorem size_le_rows {p : Part} : ∀ (newLine : Bool) {ps : List Part}, p ∈ ps → p.size ≤ (rows newLine ps).length
  | newLine, q :: ps, h => by
    rw [rows, List.length_append]
    rcases List.mem_cons.mp h with rfl | h
    · exact Nat.le_add_right_of_le (p.size_le newLine)
    · exact Nat.le_add_left_of_le (size_le_rows true h)

theorem exists_row : ∀ p : Part, ∃ kind text rest,
    ∀ newLine, p.row newLine = ⟨kind, text, newLine⟩ :: rest
  | package _ | importOne _ | imports _ | routine _ => ⟨_, _, _, fun _ => rfl⟩

/-- A part is parsed to what was written. -/
theorem parses_item : ∀ p : Part, p.isPlain → p.size ≤ k → p.size ≤ bound →
    Parses (item (Layer.build bound (k + 3))) (p.row newLine ++ us) us p.Forms
  | package n, _, _, _ => by
    refine .bind parses_next fun t ht => ?_
    obtain ⟨t, rfl, hu⟩ := Option.map_eq_some_iff.mp ht
    have htext : t.text = "package" := congrArg Spelling.text hu
    dsimp only
    rw [htext]
    refine .bind (parses_take rfl) fun _ _ => .bind (parses_takeName rfl) fun m hm => .pure ⟨m, rfl, hm⟩
  | importOne i, hplain, _, _ => by
    obtain ⟨kind, text, rest, hrow, hopen, -⟩ := Imported.exists_row i hplain
    have hsees : Parses (sees "(") (i.row false ++ us) (i.row false ++ us) (· = false) := by
      rw [hrow]
      exact parses_sees_not hopen
    refine .bind parses_next fun t ht => ?_
    obtain ⟨t, rfl, hu⟩ := Option.map_eq_some_iff.mp ht
    have htext : t.text = "import" := congrArg Spelling.text hu
    dsimp only
    rw [htext]
    exact .bind (parses_take rfl) fun start _ => .ifFalse hsees (.bind (parses_importSpec i hplain) fun x hx =>
      .pure ⟨x, start, rfl, hx⟩)
  | imports is, hplain, _, hbound => by
    rw [isPlain, List.all_eq_true] at hplain
    have hentries : Parses (entries importSpec ")" false (bound + 1)) (Imported.rows true is ++ importsEnd :: us)
        (importsEnd :: us) (List.Forall₂ Imported.Forms is) :=
      parses_entries is true _ hplain (Nat.lt_succ_of_le hbound)
    have hrow : (imports is).row newLine ++ us =
        ⟨.keyword, "import", newLine⟩ :: sign "(" :: (Imported.rows true is ++ importsEnd :: us) := by
      simp [row, importsEnd]
    rw [hrow]
    refine .bind parses_next fun t ht => ?_
    obtain ⟨t, rfl, hu⟩ := Option.map_eq_some_iff.mp ht
    have htext : t.text = "import" := congrArg Spelling.text hu
    dsimp only
    rw [htext]
    exact .bind (parses_take rfl) fun start _ => .ifTrue (parses_sees_self rfl)
      (.bind (.bind (parses_take rfl) fun _ _ => .bind hentries fun xs hxs => .bind (parses_take rfl) fun _ _ => .pure hxs)
        fun xs hxs => .pure ⟨xs, start, rfl, hxs⟩)
  | routine r, hplain, hk, hbound => by
    refine .bind parses_next fun t ht => ?_
    obtain ⟨t, rfl, hu⟩ := Option.map_eq_some_iff.mp ht
    have htext : t.text = "func" := congrArg Spelling.text hu
    dsimp only
    rw [htext]
    exact .orElse (.bind (r.parses_funcDecl hplain hk hbound) fun x hx => .pure ⟨x, rfl, hx⟩)

end Part

/-- Parts on lines of their own are parsed to what was written. -/
theorem parses_allItems : ∀ (ps : List Part) (newLine : Bool) (m : Nat), (∀ p ∈ ps, p.isPlain) → (∀ p ∈ ps, p.size ≤ k) →
    (∀ p ∈ ps, p.size ≤ bound) → ps.length < m →
    Parses (allItems (Layer.build bound (k + 3)) m) (Part.rows newLine ps) [] (List.Forall₂ Part.Forms ps)
  | [], _, m, _, _, _, hm => by
    obtain ⟨m, rfl⟩ : ∃ m', m = m' + 1 := ⟨m - 1, by omega⟩
    refine .bind parses_next fun t ht => ?_
    rw [Option.map_eq_none_iff.mp ht]
    exact .pure .nil
  | p :: ps, newLine, m, hplain, hk, hbound, hm => by
    rw [List.length_cons] at hm
    obtain ⟨m, rfl⟩ : ∃ m', m = m' + 1 := ⟨m - 1, by omega⟩
    have hmem : p ∈ p :: ps := List.mem_cons_self
    have hitem : Parses (item (Layer.build bound (k + 3))) (p.row newLine ++ Part.rows true ps) (Part.rows true ps)
        p.Forms :=
      p.parses_item (hplain p hmem) (hk p hmem) (hbound p hmem)
    have hmore := parses_allItems ps false m (fun q hq => hplain q (List.mem_cons_of_mem p hq))
      (fun q hq => hk q (List.mem_cons_of_mem p hq)) (fun q hq => hbound q (List.mem_cons_of_mem p hq)) (by omega)
    have hend : Parses takeEnd (Part.rows true ps) (Part.rows false ps) fun _ => True := by
      cases ps with
      | nil => exact parses_takeEnd_nil
      | cons q ps =>
        obtain ⟨kind, text, rest, hrow⟩ := q.exists_row
        rw [Part.rows, Part.rows, hrow, hrow]
        exact parses_takeEnd rfl
    obtain ⟨kind, text, rest, hrow⟩ := p.exists_row
    refine .bind parses_next fun t ht => ?_
    rw [Part.rows, hrow] at ht
    obtain ⟨t, rfl, -⟩ := Option.map_eq_some_iff.mp ht
    exact .bind hitem fun x hx => .bind hend fun _ _ => .bind hmore fun xs hxs => .pure (.cons hx hxs)

/-! ## Whole sources -/

theorem Part.length_le : ∀ (newLine : Bool) (ps : List Part), ps.length ≤ (Part.rows newLine ps).length
  | _, [] => Nat.le_refl _
  | newLine, p :: ps => by
    obtain ⟨kind, text, rest, hrow⟩ := p.exists_row
    have := length_le true ps
    rw [Part.rows, hrow, List.length_append, List.length_cons, List.length_cons]
    omega

/-- Tokens of parts are those of items that are what was written. -/
theorem exists_items {tokens : List Token} {p : Part} {ps : List Part} (hplain : ∀ q ∈ p :: ps, q.isPlain)
    (htokens : tokens.map Token.spelling = Part.rows false (p :: ps)) :
    ∃ items, items? tokens = some items ∧ List.Forall₂ Part.Forms (p :: ps) items := by
  have hlength : tokens.length = (Part.rows false (p :: ps)).length := by rw [← htokens, List.length_map]
  have hparts := Part.length_le false (p :: ps)
  rw [← hlength, List.length_cons] at hparts
  have hsize (q : Part) (hq : q ∈ p :: ps) : q.size ≤ tokens.length := hlength ▸ Part.size_le_rows false hq
  obtain ⟨k, hk⟩ : ∃ k, 2 * tokens.length + 2 = k + 3 := ⟨2 * tokens.length - 1, by omega⟩
  have hparses := @parses_allItems tokens.length k (p :: ps) false (tokens.length + 1) hplain
    (fun q hq => Nat.le_trans (hsize q hq) (by omega)) hsize (by rw [List.length_cons]; omega)
  obtain ⟨items, rest, hitems, -, hforms⟩ := hparses tokens htokens
  refine ⟨items, ?_, hforms⟩
  rw [items?, hk, hitems]
  rfl

end GoRebuild.Grammar
