import GoRebuild.Proofs.Lexical.Breaks
import GoRebuild.Proofs.Verify.Lines

/-!
# Literals that lines are stripped around

* `Inside q x` : a text does not close the literal that the quote `q` has opened;
* `inside_string`, `inside_raw`, `inside_rune` : what stands between the quotes of a literal does not close it;
* `exists_inside` : so a literal on one line is kept as a whole.
-/

namespace GoRebuild.Verify
open Text Lexical

/-- A text that does not close the literal that a quote has opened. -/
def Inside (q : Char) (x : List Char) : Prop :=
  ∀ l, stripFrom (some q) (x ++ l) = x ++ stripFrom (some q) l

namespace Inside

variable {q : Char} {x : List Char}

theorem nil : Inside q [] := fun _ => rfl

theorem cons {c : Char} (hne : c ≠ q) (hescape : ¬(c = '\\' ∧ q ≠ '\x60')) (hx : Inside q x) : Inside q (c :: x) := by
  intro l
  rw [List.cons_append, stripFrom_inside hne hescape, hx, List.cons_append]

theorem escape (hne : '\\' ≠ q) (hq : q ≠ '\x60') (d : Char) (hx : Inside q x) : Inside q ('\\' :: d :: x) := by
  intro l
  rw [List.cons_append, List.cons_append, stripFrom_escape hne hq, hx, List.cons_append, List.cons_append]

/-- A whole literal is kept. -/
theorem strip (hx : Inside q x) (hq : isQuote q) (l : List Char) :
    stripFrom none (q :: x ++ [q] ++ l) = q :: x ++ [q] ++ stripFrom none l := by
  rw [List.append_assoc, List.cons_append, stripFrom_open hq, hx, List.cons_append, List.nil_append, stripFrom_close]
  simp

end Inside

theorem inside_string {cs : List Char} {n : Nat} (h : stringTailLength cs = some n) :
    ∃ x, cs.take n = x ++ ['"'] ∧ Inside '"' x := by
  fun_induction stringTailLength cs generalizing n with
  | case1 => cases h
  | case2 c cs _ ih =>
    obtain ⟨m, hm, rfl⟩ := Option.map_eq_some_iff.mp h
    obtain ⟨x, htake, hx⟩ := ih hm
    exact ⟨'\\' :: c :: x, by rw [List.take_succ_cons, List.take_succ_cons, htake]; rfl,
      .escape (by decide) (by decide) c hx⟩
  | case3 => cases h
  | case4 =>
    cases h
    exact ⟨[], rfl, .nil⟩
  | case5 => cases h
  | case6 c cs _ hquote hend ih =>
    obtain ⟨m, hm, rfl⟩ := Option.map_eq_some_iff.mp h
    obtain ⟨x, htake, hx⟩ := ih hm
    refine ⟨c :: x, by rw [List.take_succ_cons, htake]; rfl, .cons hquote ?_ hx⟩
    rintro ⟨rfl, -⟩
    simp at hend

theorem inside_raw {cs : List Char} {n : Nat} (h : rawTailLength cs = some n) :
    ∃ x, cs.take n = x ++ ['\x60'] ∧ Inside '\x60' x := by
  induction cs generalizing n with
  | nil => cases h
  | cons c cs ih =>
    rw [rawTailLength] at h
    split at h
    · rename_i hc
      cases h
      exact ⟨[], by rw [hc]; rfl, .nil⟩
    · rename_i hc
      obtain ⟨m, hm, rfl⟩ := Option.map_eq_some_iff.mp h
      obtain ⟨x, htake, hx⟩ := ih hm
      exact ⟨c :: x, by rw [List.take_succ_cons, htake]; rfl, .cons hc (by simp) hx⟩

theorem inside_hex {x : List Char} (h : ∀ c ∈ x, isHexDigit c) : Inside '\'' x := by
  induction x with
  | nil => exact .nil
  | cons c x ih =>
    have hne (d : Char) (hd : isHexDigit d = false) : c ≠ d := by
      rintro rfl
      rw [h c List.mem_cons_self] at hd
      cases hd
    exact .cons (hne _ (by decide)) (fun hboth => hne '\\' (by decide) hboth.1)
      (ih fun d hd => h d (List.mem_cons_of_mem c hd))

theorem hex_of_startsWithHex {k : Nat} {cs : List Char} (h : startsWithHex k cs) : ∀ c ∈ cs.take k, isHexDigit c := by
  induction k generalizing cs with
  | zero => exact fun c hc => nomatch hc
  | succ k ih =>
    cases cs with
    | nil => cases h
    | cons c cs =>
      rw [startsWithHex, Bool.and_eq_true] at h
      intro d hd
      cases hd with
      | head => exact h.1
      | tail _ hd => exact ih h.2 d hd

theorem hex_of_octal {c : Char} (h : isOctalDigit c) : isHexDigit c := by
  simp only [isOctalDigit, Bool.and_eq_true, decide_eq_true_eq] at h
  simp only [isHexDigit, Char.isDigit, Bool.or_eq_true, Bool.and_eq_true, decide_eq_true_eq]
  exact .inl (.inl ⟨h.1, Nat.le_trans h.2 (by decide)⟩)

/-- An escape is a character and hexadecimal digits. -/
theorem hex_of_escape {cs : List Char} {n : Nat} (h : runeEscapeLength cs = some n) :
    ∃ d ds, cs.take n = d :: ds ∧ ∀ c ∈ ds, isHexDigit c := by
  cases cs with
  | nil => cases h
  | cons c cs =>
    have hhex {k : Nat} (h : (if startsWithHex k cs then some (k + 1) else none) = some n) :
        ∃ d ds, (c :: cs).take n = d :: ds ∧ ∀ e ∈ ds, isHexDigit e := by
      split at h
      · rename_i hk
        cases h
        exact ⟨c, cs.take k, rfl, hex_of_startsWithHex hk⟩
      · cases h
    rw [runeEscapeLength] at h
    split at h
    · exact hhex h
    split at h
    · exact hhex h
    split at h
    · exact hhex h
    split at h
    · rename_i hoctal
      cases h
      obtain ⟨d, e, cs, rfl, hd, he⟩ := octal_digits hoctal
      refine ⟨c, [d, e], rfl, ?_⟩
      rintro f (_ | ⟨_, _ | ⟨_, ⟨⟩⟩⟩)
      · exact hex_of_octal hd
      · exact hex_of_octal he
    · split at h
      · cases h
        exact ⟨c, [], rfl, by simp⟩
      · cases h

theorem inside_rune {cs : List Char} {n : Nat} (h : runeLength cs = some n) :
    ∃ x, cs.take n = '\'' :: x ++ ['\''] ∧ Inside '\'' x := by
  unfold runeLength at h
  split at h
  · rename_i cs
    split at h
    · rename_i k hk
      split at h
      · rename_i hquote
        cases h
        obtain ⟨rest, hrest⟩ := List.head?_eq_some_iff.mp hquote
        obtain ⟨d, ds, htake, hds⟩ := hex_of_escape hk
        have htake' : cs.take (k + 1) = d :: ds ++ ['\''] := by
          rw [List.take_add, hrest, htake]
          rfl
        exact ⟨'\\' :: d :: ds, by rw [List.take_succ_cons, List.take_succ_cons, htake']; rfl,
          .escape (by decide) (by decide) d (inside_hex hds)⟩
      · cases h
    · cases h
  · rename_i c cs hne
    split at h
    · cases h
    · rename_i hc
      cases h
      refine ⟨[c], rfl, .cons hc ?_ .nil⟩
      rintro ⟨rfl, -⟩
      exact hne rfl
  · cases h

/-- A token in quotes is read from itself alone, and kept as a whole. -/
theorem exists_inside {c : Char} (hc : isQuote c) {v : List Char} {kind : TokenKind} {n : Nat}
    (h : lexeme? (c :: v) = some (kind, n)) :
    ∃ x, (c :: v).take n = c :: x ++ [c] ∧ Inside c x ∧ ∀ s, lexeme? ((c :: v).take n ++ s) = some (kind, n) := by
  simp only [isQuote, Bool.or_eq_true, decide_eq_true_eq] at hc
  rcases hc with (rfl | rfl) | rfl
  · obtain ⟨m, hm, heq⟩ := Option.map_eq_some_iff.mp (h : (stringLength ('"' :: v)).map _ = _)
    cases heq
    obtain ⟨k, hk, rfl⟩ := Option.map_eq_some_iff.mp hm
    obtain ⟨x, htake, hx⟩ := inside_string hk
    refine ⟨x, by rw [List.take_succ_cons, htake]; rfl, hx, fun s => ?_⟩
    have happend := stringLength_append hm s
    change (stringLength _).map _ = _
    rw [List.take_succ_cons, List.cons_append] at happend ⊢
    rw [happend]
    rfl
  · obtain ⟨m, hm, heq⟩ := Option.map_eq_some_iff.mp (h : (rawStringLength ('\x60' :: v)).map _ = _)
    cases heq
    obtain ⟨k, hk, rfl⟩ := Option.map_eq_some_iff.mp hm
    obtain ⟨x, htake, hx⟩ := inside_raw hk
    refine ⟨x, by rw [List.take_succ_cons, htake]; rfl, hx, fun s => ?_⟩
    have happend := rawStringLength_append hm s
    change (rawStringLength _).map _ = _
    rw [List.take_succ_cons, List.cons_append] at happend ⊢
    rw [happend]
    rfl
  · obtain ⟨m, hm, heq⟩ := Option.map_eq_some_iff.mp (h : (runeLength ('\'' :: v)).map _ = _)
    cases heq
    obtain ⟨x, htake, hx⟩ := inside_rune hm
    refine ⟨x, htake, hx, fun s => ?_⟩
    have happend := runeLength_append hm s
    rw [htake, List.cons_append, List.cons_append] at happend ⊢
    change (runeLength _).map _ = _
    rw [happend]
    rfl

end GoRebuild.Verify
