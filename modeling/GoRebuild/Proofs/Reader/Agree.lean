import GoRebuild.Proofs.Grammar.Plain

/-!
# What was read against what is kept

* `Agree same ps qs` : `qs`, the pieces of a tree, are `ps`, the pieces that were read, if the reading is the
  `same`, and otherwise leave other marks. Either way they have no more marks, and the same first one. The two
  rules make this a property of the parts: rows that differ still differ when equal rows are put beside them;
* `AgreeRows` : the same of rows, entry by entry;
* `Starts` : pieces whose first mark is there and is not the dots.
-/

namespace GoRebuild
open Piece

/-! ## The first mark -/

/-- The first mark is not the dots. -/
def Starts (ps : List Piece) : Prop :=
  ∃ m, (allMarks ps).head? = some m ∧ m ≠ .dots

namespace Starts

variable {p : Piece} {ps : List Piece}

theorem append (h : Starts ps) (qs : List Piece) : Starts (ps ++ qs) := by
  obtain ⟨m, hm, hdots⟩ := h
  exact ⟨m, by rw [allMarks_append, List.head?_append, hm]; rfl, hdots⟩

theorem of_mark {m : Mark} (hp : p.marks.head? = some m) (hdots : m ≠ .dots) (ps : List Piece) : Starts (p :: ps) :=
  ⟨m, by rw [allMarks, List.head?_append, hp]; rfl, hdots⟩

/-- A symbol or keyword of a fixed text. -/
theorem of_text (text : String) (hp : p.marks = marksOf text) (ps : List Piece)
    (h : (marksOf text).head?.any (· ≠ .dots) = true := by decide) : Starts (p :: ps) := by
  rw [Option.any_eq_true] at h
  obtain ⟨m, hm, hdots⟩ := h
  exact of_mark (by rw [hp, hm]) (of_decide_eq_true hdots) ps

/-- Something that leaves no mark stands before. -/
theorem behind_silent (qs : List Piece) (hqs : allMarks qs = []) (h : Starts ps) : Starts (qs ++ ps) := by
  obtain ⟨m, hm, hdots⟩ := h
  exact ⟨m, by rw [allMarks_append, hqs]; exact hm, hdots⟩

theorem of_append {qs : List Piece} (h : Starts (ps ++ qs)) : Starts ps ∨ allMarks ps = [] ∧ Starts qs := by
  obtain ⟨m, hm, hdots⟩ := h
  rw [allMarks_append, List.head?_append] at hm
  cases hps : allMarks ps with
  | nil =>
    rw [hps] at hm
    exact .inr ⟨rfl, m, hm, hdots⟩
  | cons m' ms =>
    rw [hps] at hm
    exact .inl ⟨m, by rw [hps]; exact hm, hdots⟩

theorem word {n : String} (h : Lexical.isWord n) (hp : p.marks = marksOf n) (ps : List Piece) : Starts (p :: ps) := by
  obtain ⟨m, hm, hdots⟩ := marks_of_word h
  exact of_mark (by rw [hp, hm]; rfl) hdots ps

end Starts

/-! ## Agreement -/

/-- What the pieces of a tree have to do with the pieces that were read. -/
structure Agreement (same : Bool) (ps qs : List Piece) : Prop where
  read_kept : allKept ps
  kept : allKept qs
  plain : allPlain qs
  eq_of_same : same → qs = ps
  length_le : (allMarks qs).length ≤ (allMarks ps).length
  starts : Starts ps → Starts qs
  same_of_eq : allMarks qs = allMarks ps → same

/-- The agreement, where names are names. -/
def Agree (same : Bool) (ps qs : List Piece) : Prop :=
  allPlain ps → Agreement same ps qs

namespace Agree

variable {b b' : Bool} {ps ps' qs qs' : List Piece}

theorem refl (hkept : allKept ps) : Agree true ps ps :=
  fun hplain => ⟨hkept, hkept, hplain, fun _ => rfl, Nat.le_refl _, id, fun _ => rfl⟩

theorem append (h : Agree b ps qs) (h' : Agree b' ps' qs') : Agree (b && b') (ps ++ ps') (qs ++ qs') := by
  intro hplain
  rw [allPlain_append, Bool.and_eq_true] at hplain
  obtain ⟨hread, hkept, hp, heq, hle, hstarts, hsame⟩ := h hplain.1
  obtain ⟨hread', hkept', hp', heq', hle', hstarts', hsame'⟩ := h' hplain.2
  refine ⟨?_, ?_, ?_, ?_, ?_, ?_, ?_⟩
  · rw [allKept_append, hread, hread']
    rfl
  · rw [allKept_append, hkept, hkept']
    rfl
  · rw [allPlain_append, hp, hp']
    rfl
  · intro h
    rw [Bool.and_eq_true] at h
    rw [heq h.1, heq' h.2]
  · rw [allMarks_append, allMarks_append, List.length_append, List.length_append]
    omega
  · intro hstart
    rcases hstart.of_append with hstart | ⟨hnil, hstart⟩
    · exact (hstarts hstart).append qs'
    · have hqs : allMarks qs = [] := List.eq_nil_of_length_eq_zero (by rw [hnil] at hle; exact Nat.le_zero.mp hle)
      exact .behind_silent qs hqs (hstarts' hstart)
  · -- no part has more marks than it was read from, so that each has as many
    intro hmarks
    rw [allMarks_append, allMarks_append] at hmarks
    have hlength := congrArg List.length hmarks
    rw [List.length_append, List.length_append] at hlength
    obtain ⟨h1, h2⟩ := List.append_inj hmarks (by omega)
    rw [hsame h1, hsame' h2]
    rfl

/-- Pieces that are kept as they are stand behind. -/
theorem before (h : Agree b ps qs) (rs : List Piece) (hrs : allKept rs = true) :
    Agree b (ps ++ rs) (qs ++ rs) := by
  have happend := h.append (refl hrs)
  rwa [Bool.and_true] at happend

/-- Pieces that are kept as they are stand before. -/
theorem behind (h : Agree b ps qs) (rs : List Piece) (hrs : allKept rs = true) :
    Agree b (rs ++ ps) (rs ++ qs) := by
  have happend := (refl hrs).append h
  rwa [Bool.true_and] at happend

theorem lone (h : Agree b ps qs) : Agree b [.lone ps] [.lone qs] := by
  intro hplain
  have hps : allPlain ps := by simpa [allPlain, isPlain] using hplain
  obtain ⟨hread, hkept, hp, heq, hle, hstarts, hsame⟩ := h hps
  have hmarks (rs : List Piece) : allMarks [.lone rs] = allMarks rs := List.append_nil _
  refine ⟨?_, ?_, ?_, ?_, ?_, ?_, ?_⟩
  · simpa [allKept, isKept] using hread
  · simpa [allKept, isKept] using hkept
  · simpa [allPlain, isPlain] using hp
  · exact fun h => by rw [heq h]
  · rwa [hmarks, hmarks]
  · rwa [Starts, Starts, hmarks, hmarks]
  · rwa [hmarks, hmarks]

/-- A comma before both leaves no mark. -/
theorem of_comma (h : Agree b (sym "," :: ps) (sym "," :: qs)) : Agree b ps qs := by
  intro hplain
  obtain ⟨hread, hkept, hp, heq, hle, hstarts, hsame⟩ := h hplain
  refine ⟨hread, hkept, hp, fun h => ?_, hle, hstarts, hsame⟩
  injection heq h

theorem brackets (h : Agree b ps qs) : Agree b (Piece.brackets ps) (Piece.brackets qs) :=
  (h.behind [sym "["] rfl).before [sym "]"] rfl

theorem asserted (h : Agree b ps qs) : Agree b (Piece.asserted ps) (Piece.asserted qs) :=
  (h.behind [sym ".", sym "("] rfl).before [sym ")"] rfl

end Agree

/-- Rows of which each agrees. -/
inductive AgreeRows : Bool → List (List Piece) → List (List Piece) → Prop
  | nil : AgreeRows true [] []
  | cons {b b' ps qs pss qss} : Agree b ps qs → AgreeRows b' pss qss → AgreeRows (b && b') (ps :: pss) (qs :: qss)

namespace AgreeRows

variable {b b' : Bool} {ps qs : List Piece} {pss pss' qss qss' : List (List Piece)}

theorem one (h : Agree b ps qs) : AgreeRows b [ps] [qs] := by
  have hcons := AgreeRows.cons h .nil
  rwa [Bool.and_true] at hcons

theorem append (h : AgreeRows b pss qss) (h' : AgreeRows b' pss' qss') :
    AgreeRows (b && b') (pss ++ pss') (qss ++ qss') := by
  induction h with
  | nil => rwa [Bool.true_and]
  | cons h _ ih =>
    rw [Bool.and_assoc]
    exact .cons h ih

theorem flatMap (h : AgreeRows b pss qss) {s : Piece} (hs : allKept [s]) :
    Agree b (pss.flatMap (s :: ·)) (qss.flatMap (s :: ·)) := by
  induction h with
  | nil => exact .refl rfl
  | cons h _ ih => exact (h.behind [s] hs).append ih

theorem separated (h : AgreeRows b pss qss) {s : Piece} (hs : allKept [s] = true) :
    Agree b (Piece.separated s pss) (Piece.separated s qss) := by
  cases h with
  | nil => exact .refl rfl
  | cons h h' =>
    rw [separated_cons, separated_cons]
    exact h.append (h'.flatMap hs)

theorem parens (h : AgreeRows b pss qss) : Agree b (Piece.parens pss) (Piece.parens qss) :=
  ((h.separated (s := sym ",") rfl).behind [sym "("] rfl).before [comma, sym ")"] rfl

theorem values (h : AgreeRows b pss qss) : Agree b (Piece.values pss) (Piece.values qss) :=
  ((h.separated (s := sym ",") rfl).behind [sym "\x7b"] rfl).before [comma, sym "\x7d"] rfl

theorem braces (h : AgreeRows b pss qss) : Agree b (Piece.braces pss) (Piece.braces qss) :=
  ((h.separated (s := stop) rfl).behind [sym "\x7b"] rfl).before [sym "\x7d"] rfl

theorem header (h : AgreeRows b pss qss) (keyword : String) :
    Agree b (Piece.header keyword pss) (Piece.header keyword qss) :=
  (h.separated (s := stop) rfl).behind [key keyword] rfl

theorem defs (h : AgreeRows b pss qss) (grouped : Bool) :
    Agree b (Piece.defs grouped pss) (Piece.defs grouped qss) := by
  unfold Piece.defs
  split
  · exact ((h.separated (s := stop) rfl).behind [sym "("] rfl).before [sym ")"] rfl
  · exact h.separated rfl

end AgreeRows

/-! ## What a tree has no room for -/

/-- Whether pieces that are kept and plain start with another mark than the dots. -/
def StartsIfPlain (ps : List Piece) : Prop :=
  allKept ps → allPlain ps → Starts ps

variable {b b' : Bool} {ps ps' qs qs' : List Piece}

/-- A part that is left out leaves fewer marks. -/
theorem Agree.drop (h : Agree b ps qs) (hps : StartsIfPlain ps) (h' : Agree b' ps' qs') (hps' : StartsIfPlain ps') :
    Agree false (ps ++ ps') qs := by
  intro hplain
  rw [allPlain_append, Bool.and_eq_true] at hplain
  obtain ⟨hread, hkept, hp, -, hle, hstarts, -⟩ := h hplain.1
  have hread' := (h' hplain.2).read_kept
  obtain ⟨m', hm', -⟩ := hps' hread' hplain.2
  have hpos : 0 < (allMarks ps').length := by
    cases hmarks : allMarks ps' with
    | nil => rw [hmarks] at hm'; cases hm'
    | cons m ms => exact Nat.succ_pos _
  refine ⟨?_, hkept, hp, nofun, ?_, ?_, fun heq => ?_⟩
  · rw [allKept_append, hread, hread']
    rfl
  · rw [allMarks_append, List.length_append]
    omega
  · exact fun _ => hstarts (hps hread hplain.1)
  · have hlength := congrArg List.length heq
    rw [allMarks_append, List.length_append] at hlength
    omega

/-- Where the dots stand behind one argument and are moved behind others, the marks differ: what moves before
the dots does not start with dots. -/
theorem Agree.spread {moved : Bool} (h : Agree b ps qs) (hps : StartsIfPlain ps)
    (h' : Agree b' ps' (qs' ++ if moved then [sym "..."] else [])) (hps' : StartsIfPlain ps') :
    Agree false (ps ++ [sym "..."] ++ ps') (qs ++ qs' ++ [sym "..."]) := by
  intro hplain
  rw [allPlain_append, allPlain_append, Bool.and_eq_true, Bool.and_eq_true] at hplain
  obtain ⟨hread, hkept, hp, -, hle, hstarts, -⟩ := h hplain.1.1
  obtain ⟨hread', hkept', hp', -, hle', hstarts', -⟩ := h' hplain.2
  obtain ⟨m, hm, hdots⟩ := hstarts' (hps' hread' hplain.2)
  rw [allKept_append, Bool.and_eq_true] at hkept'
  rw [allPlain_append, Bool.and_eq_true] at hp'
  have hmark : allMarks [sym "..."] = [.dots] := by decide
  rw [allMarks_append, List.length_append] at hle'
  refine ⟨?_, ?_, ?_, nofun, ?_, ?_, fun heq => ?_⟩
  · simp [hread, hread', allKept, isKept]
  · simp [hkept, hkept'.1, allKept, isKept]
  · simp [hp, hp'.1, allPlain, isPlain]
  · simp only [allMarks_append, List.length_append, hmark]
    omega
  · intro _
    rw [List.append_assoc]
    exact (hstarts (hps hread hplain.1.1)).append _
  · simp only [allMarks_append, hmark] at heq
    have hlength := congrArg List.length heq
    simp only [List.length_append] at hlength
    -- nothing else is spread, and no marks are missing
    have hmoved : moved = false := by
      cases moved with
      | false => rfl
      | true =>
        rw [if_pos rfl, hmark, List.length_singleton] at hle'
        rw [List.length_singleton] at hlength
        omega
    subst hmoved
    simp only [Bool.false_eq_true, if_false, List.append_nil] at hm
    rw [List.append_assoc, List.append_assoc] at heq
    obtain ⟨-, hrest⟩ := List.append_inj heq (by simp at hlength hle' ⊢; omega)
    have hfirst := congrArg List.head? hrest
    rw [List.head?_append, hm] at hfirst
    exact absurd (Option.some.inj hfirst) hdots

end GoRebuild
