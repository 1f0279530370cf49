import GoRebuild.Proofs.Verify.Lines

/-!
# The first difference

* `LongestShared p es as` : the longest row of lines that two lists begin with;
* `compareFrom_differ` : two lists that are not the same differ behind it;
* `Outcome.swap`, `compareFrom_swap` : the texts in the other order;
* `Respaced` : two texts that have the same lines but for white space at ends of lines and blank lines;
* `significantLines_respaced` : they are the same to compare;
* `compare_first_difference` : what a comparison tells.
-/

namespace GoRebuild.Verify
open Text

/-! ## Lists of lines -/

/-- The longest row of lines that two lists begin with. -/
structure LongestShared (p es as : List String) : Prop where
  left : p <+: es
  right : p <+: as
  longest : ∀ q, q <+: es → q <+: as → q <+: p

namespace LongestShared

variable {p es as : List String}

/-- Nothing is shared with an empty list. -/
theorem nil_left : LongestShared [] [] as :=
  ⟨List.nil_prefix, List.nil_prefix, fun _ hleft _ => hleft⟩

theorem symm (h : LongestShared p es as) : LongestShared p as es :=
  ⟨h.right, h.left, fun q hleft hright => h.longest q hright hleft⟩

theorem of_head_ne {e a : String} (hne : e ≠ a) : LongestShared [] (e :: es) (a :: as) := by
  refine ⟨List.nil_prefix, List.nil_prefix, fun q hleft hright => ?_⟩
  cases q with
  | nil => exact List.nil_prefix
  | cons l q => exact absurd ((List.cons_prefix_cons.mp hleft).1.symm.trans (List.cons_prefix_cons.mp hright).1) hne

theorem cons (h : LongestShared p es as) (l : String) : LongestShared (l :: p) (l :: es) (l :: as) := by
  refine ⟨List.cons_prefix_cons.mpr ⟨rfl, h.left⟩, List.cons_prefix_cons.mpr ⟨rfl, h.right⟩, fun q hleft hright => ?_⟩
  cases q with
  | nil => exact List.nil_prefix
  | cons m q =>
    obtain ⟨hm, hleft⟩ := List.cons_prefix_cons.mp hleft
    exact List.cons_prefix_cons.mpr ⟨hm, h.longest q hleft (List.cons_prefix_cons.mp hright).2⟩

end LongestShared

/-- Lists that are not the same differ behind the lines that they share. -/
theorem compareFrom_differ {es as : List String} (hne : es ≠ as) (line : Nat) :
    ∃ p, LongestShared p es as ∧
      compareFrom line es as = .differ (line + p.length) (es[p.length]?.getD endMark) (as[p.length]?.getD endMark) := by
  induction es generalizing as line with
  | nil =>
    cases as with
    | nil => exact absurd rfl hne
    | cons a as => exact ⟨[], .nil_left, rfl⟩
  | cons e es ih =>
    cases as with
    | nil => exact ⟨[], LongestShared.nil_left.symm, rfl⟩
    | cons a as =>
      by_cases heq : e = a
      · subst heq
        have htails : es ≠ as := fun h => hne (by rw [h])
        obtain ⟨p, hp, hcompare⟩ := ih htails (line + 1)
        refine ⟨e :: p, hp.cons e, ?_⟩
        rw [compareFrom, if_pos rfl, hcompare, List.length_cons, Nat.add_right_comm, Nat.add_assoc]
        rfl
      · exact ⟨[], .of_head_ne heq, if_neg heq⟩

/-- The outcome with the texts in the other order. -/
def Outcome.swap : Outcome → Outcome
  | agree => agree
  | differ line expected actual => differ line actual expected

theorem compareFrom_swap (line : Nat) (es as : List String) :
    compareFrom line as es = (compareFrom line es as).swap := by
  induction es generalizing as line with
  | nil => cases as <;> rfl
  | cons e es ih =>
    cases as with
    | nil => rfl
    | cons a as =>
      rw [compareFrom, compareFrom]
      by_cases heq : e = a
      · rw [if_pos heq.symm, if_pos heq]
        exact ih (line + 1) as
      · rw [if_neg (Ne.symm heq), if_neg heq]
        rfl

/-! ## Texts with the same lines -/

/-- The same lines but for white space at their ends and blank lines. White space at the end of a line
may have line breaks in it, which add blank lines, or be a carriage return. -/
inductive Respaced : List Char → List Char → Prop
  | lineEnd (a b : List Char) {w : List Char} : w.all isBlank → Respaced (a ++ w ++ '\n' :: b) (a ++ '\n' :: b)
  | textEnd (a : List Char) {w : List Char} : w.all isBlank → Respaced (a ++ w) a
  | textStart (b : List Char) {w : List Char} : w.all isBlank → Respaced (w ++ '\n' :: b) b
  | refl (a : List Char) : Respaced a a
  | symm {a b : List Char} : Respaced a b → Respaced b a
  | trans {a b c : List Char} : Respaced a b → Respaced b c → Respaced a c

/-- Characters on the last line go to the last piece. -/
theorem exists_last_piece (a : List Char) :
    ∃ init last, ∀ x, '\n' ∉ x → pieces (a ++ x) = init ++ [last ++ x] := by
  induction a with
  | nil => exact ⟨[], [], fun x hx => by simpa using @pieces_append [] [] [] x hx rfl⟩
  | cons c a ih =>
    obtain ⟨init, last, h⟩ := ih
    by_cases hc : c = '\n'
    · subst hc
      exact ⟨[] :: init, last, fun x hx => by rw [List.cons_append, pieces_newline, h x hx, List.cons_append]⟩
    · cases init with
      | nil => exact ⟨[], c :: last, fun x hx => pieces_cons hc (h x hx)⟩
      | cons l init => exact ⟨(c :: l) :: init, last, fun x hx => pieces_cons hc (h x hx)⟩

theorem pieces_append_newline (a b : List Char) : pieces (a ++ '\n' :: b) = pieces a ++ pieces b := by
  induction a with
  | nil => exact pieces_newline b
  | cons c a ih =>
    by_cases hc : c = '\n'
    · subst hc
      rw [List.cons_append, pieces_newline, ih, pieces_newline, List.cons_append]
    · obtain ⟨l, ls, h⟩ := exists_pieces a
      rw [h, List.cons_append] at ih
      rw [List.cons_append, pieces_cons hc ih, pieces_cons hc h, List.cons_append]

/-- White space at the end of a text does not count. -/
theorem kept_append_blank (a : List Char) {w : List Char} (hw : w.all isBlank) :
    kept (pieces (a ++ w)) = kept (pieces a) := by
  induction w using List.reverseRecOn with
  | nil => rw [List.append_nil]
  | append_singleton w b ih =>
    rw [List.all_append, Bool.and_eq_true] at hw
    rw [← ih hw.1, ← List.append_assoc]
    by_cases hb : b = '\n'
    · subst hb
      rw [pieces_append_newline, kept_append]
      exact List.append_nil _
    · obtain ⟨init, last, h⟩ := exists_last_piece (a ++ w)
      have hblank : isBlank b := by simpa using hw.2
      have hlast := h [] List.not_mem_nil
      rw [List.append_nil, List.append_nil] at hlast
      rw [h [b] (by simpa using Ne.symm hb), hlast, kept_append, kept_append, kept_cons, kept_cons, clean_append_blank hblank]

theorem kept_respaced {a b : List Char} (h : Respaced a b) : kept (pieces a) = kept (pieces b) := by
  induction h with
  | lineEnd a b hw => rw [pieces_append_newline, kept_append, kept_append_blank a hw, pieces_append_newline, kept_append]
  | textEnd a hw => exact kept_append_blank a hw
  | textStart b hw =>
    have hfront := kept_append_blank [] hw
    rw [List.nil_append] at hfront
    rw [pieces_append_newline, kept_append, hfront]
    rfl
  | refl => rfl
  | symm _ ih => exact ih.symm
  | trans _ _ ih ih' => exact ih.trans ih'

/-- Texts with the same lines are the same to compare. -/
theorem significantLines_respaced {s t : String} (h : Respaced s.toList t.toList) :
    significantLines s = significantLines t := by
  rw [significantLines_eq, significantLines_eq, kept_respaced h]

/-! ## The outcome -/

/-- **A comparison tells the first difference.** Two texts agree exactly if the same lines of them are compared.
Otherwise the outcome has the number and the two lines behind those that they share, or the mark for a text that has
ended. So agreement is an equivalence, the texts in the other order have the outcome the other way round, and blank
lines, white space at ends of lines and carriage returns before line feeds make no difference. -/
theorem compare_first_difference :
    (∀ expected actual : String,
      (compare expected actual = .agree ↔ significantLines expected = significantLines actual) ∧
      (significantLines expected ≠ significantLines actual →
        ∃ p, LongestShared p (significantLines expected) (significantLines actual) ∧
          compare expected actual = .differ (p.length + 1) ((significantLines expected)[p.length]?.getD endMark)
            ((significantLines actual)[p.length]?.getD endMark))) ∧
    Equivalence (fun expected actual => compare expected actual = .agree) ∧
    (∀ expected actual : String, compare actual expected = (compare expected actual).swap) ∧
    (∀ expected expected' actual actual' : String,
      significantLines expected = significantLines expected' → significantLines actual = significantLines actual' →
        compare expected actual = compare expected' actual') ∧
    ∀ s t : String, Respaced s.toList t.toList → significantLines s = significantLines t := by
  have hagree (expected actual : String) :
      compare expected actual = .agree ↔ significantLines expected = significantLines actual := compareFrom_eq_agree_iff
  refine ⟨fun expected actual => ⟨hagree expected actual, fun hne => ?_⟩, ⟨?_, ?_, ?_⟩, fun expected actual => ?_, ?_, ?_⟩
  · obtain ⟨p, hp, hcompare⟩ := compareFrom_differ hne 1
    exact ⟨p, hp, by rw [compare, hcompare, Nat.add_comm]⟩
  · exact fun s => (hagree s s).mpr rfl
  · exact fun {s t} h => (hagree t s).mpr ((hagree s t).mp h).symm
  · exact fun {s t u} h h' => (hagree s u).mpr (((hagree s t).mp h).trans ((hagree t u).mp h'))
  · exact compareFrom_swap 1 _ _
  · intro expected expected' actual actual' hexpected hactual
    rw [compare, hexpected, hactual, compare]
  · exact fun s t => significantLines_respaced

/-- A line that reads as the mark of an end is not the end. -/
theorem compare_first_difference_ended :
    significantLines "a // c\r\n\n<end of file>" ≠ significantLines "a\n" ∧
      compare "a // c\r\n\n<end of file>" "a\n" = .differ 2 "<end of file>" "<end of file>" ∧
      ∃ p, LongestShared p (significantLines "a // c\r\n\n<end of file>") (significantLines "a\n") ∧
        compare "a // c\r\n\n<end of file>" "a\n" =
          .differ (p.length + 1) ((significantLines "a // c\r\n\n<end of file>")[p.length]?.getD endMark)
            ((significantLines "a\n")[p.length]?.getD endMark) :=
  have hne : significantLines "a // c\r\n\n<end of file>" ≠ significantLines "a\n" := by decide +kernel
  ⟨hne, by decide +kernel, (compare_first_difference.1 _ _).2 hne⟩

end GoRebuild.Verify
