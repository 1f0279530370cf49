import GoRebuild.Verify.Compare
import Mathlib.Data.List.DropRight

/-!
# The lines that are compared

* `clean` : a line as it is compared; `kept` : all lines that are;
* `dropBlankEnd_append` : the end of a line;
* `stripFrom_close`, `stripFrom_escape`, `stripFrom_inside`, `stripFrom_open`, `stripFrom_plain` : one step of stripping;
* `clean_append_blank`, `clean_dropBlankEnd` : white space at the end of a line does not count;
* `exists_pieces`, `pieces_newline`, `pieces_cons`, `pieces_append` : the pieces of a text, from its front;
* `significantLines_eq` : carriage returns and an empty last piece make no difference;
* `compare_eq_agree_iff` : two texts agree exactly if the same lines of them are compared.
-/

namespace GoRebuild.Verify
open Text

/-- A line as it is compared. -/
def clean (line : List Char) : List Char :=
  dropBlankEnd (stripComment line)

/-- The lines that are compared, from the pieces between line feeds. -/
def kept (pieces : List (List Char)) : List (List Char) :=
  (pieces.map clean).filter fun l => !l.isEmpty

/-! ## Ends of lines -/

theorem dropBlankEnd_append (x y : List Char) :
    dropBlankEnd (x ++ y) = if dropBlankEnd y = [] then dropBlankEnd x else x ++ dropBlankEnd y := by
  unfold dropBlankEnd
  rw [List.reverse_append, List.dropWhile_append]
  simp only [List.isEmpty_iff, List.reverse_eq_nil_iff]
  split
  · rfl
  · rw [List.reverse_append, List.reverse_reverse]

theorem dropBlankEnd_eq_self {x : List Char} (h : ∀ c ∈ x.getLast?, isBlank c = false) : dropBlankEnd x = x := by
  refine List.rdropWhile_eq_self_iff.mpr fun hne => ?_
  rw [h _ (List.getLast_mem_getLast? hne)]
  exact Bool.false_ne_true

theorem dropBlankEnd_eq_nil_of_blank {x : List Char} (h : x.all isBlank) : dropBlankEnd x = [] :=
  List.rdropWhile_eq_nil_iff.mpr (by simpa using h)

/-- Nothing but white space is left only if nothing is left. -/
theorem all_blank_dropBlankEnd (x : List Char) : (dropBlankEnd x).all isBlank = (dropBlankEnd x).isEmpty := by
  cases hempty : (dropBlankEnd x).isEmpty with
  | true => rw [List.isEmpty_iff.mp hempty]; rfl
  | false =>
    have hne : dropBlankEnd x ≠ [] := by
      intro hnil
      rw [hnil] at hempty
      cases hempty
    have hlast := List.rdropWhile_last_not isBlank x hne
    rw [Bool.eq_false_iff, ne_eq, List.all_eq_true]
    exact fun hall => hlast (hall _ (List.getLast_mem hne))

/-- A line is what is left of it and white space. -/
theorem exists_blank_end (x : List Char) : ∃ white, x = dropBlankEnd x ++ white ∧ white.all isBlank := by
  refine ⟨(x.reverse.takeWhile isBlank).reverse, ?_, ?_⟩
  · rw [dropBlankEnd, ← List.reverse_append, List.takeWhile_append_dropWhile, List.reverse_reverse]
  · rw [List.all_reverse]
    exact List.all_takeWhile

/-! ## Stripping step by step -/

theorem stripFrom_close (q : Char) (cs : List Char) : stripFrom (some q) (q :: cs) = q :: stripFrom none cs := by
  rw [stripFrom.eq_def]
  exact if_pos rfl

theorem stripFrom_escape {q : Char} (hne : '\\' ≠ q) (hq : q ≠ '\x60') (d : Char) (ds : List Char) :
    stripFrom (some q) ('\\' :: d :: ds) = '\\' :: d :: stripFrom (some q) ds :=
  (if_neg hne).trans (if_pos ⟨rfl, hq⟩)

theorem stripFrom_inside {q c : Char} (hne : c ≠ q) (hescape : ¬(c = '\\' ∧ q ≠ '\x60')) (cs : List Char) :
    stripFrom (some q) (c :: cs) = c :: stripFrom (some q) cs := by
  rw [stripFrom.eq_def]
  exact (if_neg hne).trans (if_neg hescape)

theorem stripFrom_open {c : Char} (hc : isQuote c) (cs : List Char) :
    stripFrom none (c :: cs) = c :: stripFrom (some c) cs :=
  if_pos hc

theorem stripFrom_comment (cs : List Char) : stripFrom none ('/' :: '/' :: cs) = [] := rfl

theorem stripFrom_plain {c : Char} (hc : isQuote c = false) {cs : List Char} (hslash : ¬(c = '/' ∧ cs.head? = some '/')) :
    stripFrom none (c :: cs) = c :: stripFrom none cs :=
  (if_neg (Bool.eq_false_iff.mp hc)).trans (if_neg hslash)

/-- What is cut from a line is empty or begins with a slash. -/
theorem exists_stripFrom (q : Option Char) (x : List Char) :
    ∃ rest, x = stripFrom q x ++ rest ∧ ∀ c ∈ rest.head?, c = '/' := by
  have hcons {c : Char} {y z : List Char} (h : ∃ rest, y = z ++ rest ∧ ∀ c ∈ rest.head?, c = '/') :
      ∃ rest, c :: y = c :: z ++ rest ∧ ∀ c ∈ rest.head?, c = '/' := by
    obtain ⟨rest, rfl, hrest⟩ := h
    exact ⟨rest, rfl, hrest⟩
  fun_induction stripFrom q x with
  | case1 => exact ⟨[], rfl, nofun⟩
  | case2 _ _ ih => exact hcons ih
  | case3 => exact ⟨[], rfl, nofun⟩
  | case4 _ _ _ _ _ _ ih => exact hcons (hcons ih)
  | case5 _ _ _ _ _ ih => exact hcons ih
  | case6 _ _ _ ih => exact hcons ih
  | case7 c cs _ hslash =>
    refine ⟨c :: cs, rfl, ?_⟩
    rintro d ⟨⟩
    exact hslash.1
  | case8 _ _ _ _ ih => exact hcons ih

/-- White space at the end of a line stays there, or is part of the comment. -/
theorem stripFrom_append_blank {b : Char} (hb : isBlank b) (q : Option Char) (x : List Char) :
    stripFrom q (x ++ [b]) = stripFrom q x ∨ stripFrom q (x ++ [b]) = stripFrom q x ++ [b] := by
  have hcons {c : Char} {y z : List Char} (h : y = z ∨ y = z ++ [b]) : c :: y = c :: z ∨ c :: y = c :: z ++ [b] := by
    rcases h with rfl | rfl
    · exact .inl rfl
    · exact .inr rfl
  have hne (d : Char) (hd : isBlank d = false) : b ≠ d := by
    rintro rfl
    rw [hd] at hb
    cases hb
  fun_induction stripFrom q x with
  | case1 q =>
    right
    cases q with
    | none =>
      have hquote : isQuote b = false := by
        simp [isQuote, hne '"' (by decide), hne '\x60' (by decide), hne '\'' (by decide)]
      exact stripFrom_plain hquote fun hboth => hne '/' (by decide) hboth.1
    | some q =>
      by_cases hq : b = q
      · subst hq
        exact stripFrom_close b []
      · exact stripFrom_inside hq (fun hboth => hne '\\' (by decide) hboth.1) []
  | case2 q cs ih =>
    rw [List.cons_append, stripFrom_close]
    exact hcons ih
  | case3 q c hne hescape =>
    right
    obtain ⟨rfl, hq⟩ := hescape
    rw [List.cons_append, List.nil_append, stripFrom_escape hne hq]
    rfl
  | case4 q c hne hescape d ds ih =>
    obtain ⟨rfl, hq⟩ := hescape
    rw [List.cons_append, List.cons_append, stripFrom_escape hne hq]
    exact hcons (hcons ih)
  | case5 q c cs hne hescape ih =>
    rw [List.cons_append, stripFrom_inside hne hescape]
    exact hcons ih
  | case6 c cs hquote ih =>
    rw [List.cons_append, stripFrom_open hquote]
    exact hcons ih
  | case7 c cs hquote hslash =>
    left
    obtain ⟨rfl, hhead⟩ := hslash
    obtain ⟨ds, rfl⟩ := List.head?_eq_some_iff.mp hhead
    exact stripFrom_comment _
  | case8 c cs hquote hslash ih =>
    have hslash' : ¬(c = '/' ∧ (cs ++ [b]).head? = some '/') := by
      cases cs with
      | nil =>
        rintro ⟨-, hhead⟩
        exact hne '/' (by decide) (Option.some.inj hhead)
      | cons d ds => exact hslash
    rw [List.cons_append, stripFrom_plain (eq_false_of_ne_true hquote) hslash']
    exact hcons ih

/-! ## Pieces -/

theorem exists_pieces (cs : List Char) : ∃ l ls, pieces cs = l :: ls := by
  cases cs with
  | nil => exact ⟨[], [], rfl⟩
  | cons c cs =>
    rw [pieces]
    split
    · exact ⟨_, _, rfl⟩
    · split
      · exact ⟨_, _, rfl⟩
      · exact ⟨_, _, rfl⟩

theorem pieces_newline (cs : List Char) : pieces ('\n' :: cs) = [] :: pieces cs := by
  obtain ⟨l, ls, h⟩ := exists_pieces cs
  rw [pieces, h]
  rfl

section
variable {cs l : List Char} {ls : List (List Char)}

theorem pieces_cons {c : Char} (hc : c ≠ '\n') (h : pieces cs = l :: ls) : pieces (c :: cs) = (c :: l) :: ls := by
  rw [pieces, h]
  exact if_neg hc

theorem pieces_append {x : List Char} (hx : '\n' ∉ x) (h : pieces cs = l :: ls) : pieces (x ++ cs) = (x ++ l) :: ls := by
  induction x with
  | nil => exact h
  | cons c x ih =>
    rw [List.mem_cons, not_or] at hx
    exact pieces_cons (Ne.symm hx.1) (ih hx.2)

end

/-! ## Lines -/

theorem clean_append_blank {b : Char} (hb : isBlank b) (x : List Char) : clean (x ++ [b]) = clean x := by
  unfold clean stripComment
  rcases stripFrom_append_blank hb none x with heq | heq
  · rw [heq]
  · rw [heq, dropBlankEnd_append]
    exact if_pos (dropBlankEnd_eq_nil_of_blank (by simpa using hb))

/-- White space at the end of a line does not count. -/
theorem clean_dropBlankEnd (x : List Char) : clean (dropBlankEnd x) = clean x := by
  obtain ⟨white, hx, hwhite⟩ := exists_blank_end x
  have happend (white : List Char) (hwhite : white.all isBlank) : clean (dropBlankEnd x ++ white) = clean (dropBlankEnd x) := by
    induction white using List.reverseRecOn with
    | nil => rw [List.append_nil]
    | append_singleton white b ih =>
      rw [List.all_append, Bool.and_eq_true] at hwhite
      rw [← List.append_assoc, clean_append_blank (by simpa using hwhite.2), ih hwhite.1]
  conv_rhs => rw [hx, happend white hwhite]

theorem clean_dropReturn (l : List Char) : clean (dropReturn l) = clean l := by
  unfold dropReturn
  split
  · rename_i hlast
    obtain ⟨x, rfl⟩ := List.getLast?_eq_some_iff.mp hlast
    rw [List.dropLast_concat]
    exact (clean_append_blank (by decide) x).symm
  · rfl

theorem kept_cons (l : List Char) (ls : List (List Char)) :
    kept (l :: ls) = if clean l = [] then kept ls else clean l :: kept ls := by
  unfold kept
  rw [List.map_cons, List.filter_cons]
  by_cases hempty : clean l = [] <;> simp [hempty]

theorem kept_append (xs ys : List (List Char)) : kept (xs ++ ys) = kept xs ++ kept ys := by
  unfold kept
  rw [List.map_append, List.filter_append]

theorem kept_linesOf (ls : List (List Char)) : kept (linesOf ls) = kept ls := by
  fun_induction linesOf ls with
  | case1 => rfl
  | case2 l hl =>
    rw [List.isEmpty_iff.mp hl]
    decide
  | case3 => rfl
  | case4 l ls _ ih => rw [kept_cons, kept_cons, clean_dropReturn, ih]

/-- Carriage returns and an empty last piece make no difference. -/
theorem significantLines_eq (text : String) :
    significantLines text = (kept (pieces text.toList)).map String.ofList := by
  have hblank (l : List Char) : (!(dropBlankEnd (stripComment l)).all isBlank) = !(clean l).isEmpty := by
    rw [all_blank_dropBlankEnd, clean]
  rw [← kept_linesOf]
  unfold significantLines kept
  rw [List.filter_map, List.filter_map]
  simp only [Function.comp_def, hblank]
  rfl

/-! ## Comparison -/

theorem compareFrom_eq_agree_iff {es as : List String} {line : Nat} : compareFrom line es as = .agree ↔ es = as := by
  induction es generalizing as line with
  | nil => cases as <;> simp [compareFrom]
  | cons e es ih =>
    cases as with
    | nil => simp [compareFrom]
    | cons a as =>
      rw [compareFrom, List.cons.injEq]
      split
      · rename_i heq
        simp [heq, ih]
      · rename_i hne
        simp [hne]

/-- Two texts agree exactly if the same lines of them are compared. -/
theorem compare_eq_agree_iff {expected actual : String} :
    compare expected actual = .agree ↔ kept (pieces expected.toList) = kept (pieces actual.toList) := by
  unfold compare
  rw [compareFrom_eq_agree_iff, significantLines_eq, significantLines_eq]
  exact List.map_inj_right fun _ _ h => String.ofList_injective h

end GoRebuild.Verify
