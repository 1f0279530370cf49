import GoRebuild.Proofs.Chain.Steps
import GoRebuild.Proofs.Chain.Rows
import Mathlib

/-!
# Chains by their texts

An empty chain is written as the call of `Null` is. Apart from that a chain is determined by its text: each part of the
text determines both what was written and where it ends.

* `Chain.filled` : a chain with that call in the place of each empty chain; its text is the same (`Chain.text_filled`);
* `append_inj_of_stop`, `int_append_inj` : names and integers end where they do, as string literals do;
* `Step.text_append_inj`, `Step.textRest_append_inj`, `Arg.text_append_inj`, `Arg.textRest_append_inj` : calls and
  arguments;
* `text_unambiguous` : two chains have the same text if and only if they are the same once filled.
-/

namespace GoRebuild
open Text Lexical

mutual

/-- A chain, or the call of `Null` if it is empty, with its arguments filled. -/
def Step.filledOf : List Step → List Step
  | [] => Chain.keyword "Null"
  | s :: ss => s.filled :: Step.filledRest ss

/-- Calls with their arguments filled. -/
def Step.filledRest : List Step → List Step
  | [] => []
  | s :: ss => s.filled :: Step.filledRest ss

/-- A call with its arguments filled. -/
def Step.filled : Step → Step
  | .mk m as => .mk m (Arg.filledAll as)

/-- The same of each argument. -/
def Arg.filledAll : List Arg → List Arg
  | [] => []
  | a :: as => a.filled :: Arg.filledAll as

/-- An argument, filled if it is a chain. -/
def Arg.filled : Arg → Arg
  | .code c => .code (Step.filledOf c)
  | .quoted s => .quoted s
  | .int i => .int i

end

/-- A chain in which each empty chain, itself or an argument, is the call of `Null`. -/
def Chain.filled (c : Chain) : Chain :=
  Step.filledOf c

/-! ## The text of a filled chain -/

mutual

theorem Step.textOf_filled : ∀ c : List Step, Step.textOf (Step.filledOf c) = Step.textOf c
  | [] => by decide
  | s :: ss => by rw [Step.filledOf, Step.textOf, Step.textOf, Step.text_filled s, Step.textRest_filled ss]

theorem Step.textRest_filled : ∀ ss : List Step, Step.textRest (Step.filledRest ss) = Step.textRest ss
  | [] => rfl
  | s :: ss => by rw [Step.filledRest, Step.textRest, Step.textRest, Step.text_filled s, Step.textRest_filled ss]

theorem Step.text_filled : ∀ s : Step, s.filled.text = s.text
  | .mk _ [] => rfl
  | .mk m (a :: as) => by
    rw [Step.filled, Arg.filledAll, Step.text, Step.text, Arg.text_filled a, Arg.textRest_filled as]

theorem Arg.textRest_filled : ∀ as : List Arg, Arg.textRest (Arg.filledAll as) = Arg.textRest as
  | [] => rfl
  | a :: as => by rw [Arg.filledAll, Arg.textRest, Arg.textRest, Arg.text_filled a, Arg.textRest_filled as]

theorem Arg.text_filled : ∀ a : Arg, a.filled.text = a.text
  | .code c => Step.textOf_filled c
  | .quoted _ | .int _ => rfl

end

/-- An empty chain is written as the call of `Null` is. -/
theorem Chain.text_filled (c : Chain) : c.filled.text = c.text :=
  Step.textOf_filled c

/-! ## Names, literals and integers -/

/-- Two rows of characters of one kind, both up to a character of another kind or the end. -/
theorem append_inj_of_stop {p : Char → Bool} {a a' r r' : List Char} (ha : ∀ c ∈ a, p c) (ha' : ∀ c ∈ a', p c)
    (hr : ∀ c ∈ r.head?, p c = false) (hr' : ∀ c ∈ r'.head?, p c = false) (h : a ++ r = a' ++ r') : a = a' ∧ r = r' := by
  have hstop {v t : List Char} (hv : ∀ c ∈ v, p c) (ht : ∀ c ∈ t.head?, p c = false) : (v ++ t).takeWhile p = v := by
    have hnil : t.takeWhile p = [] := by
      cases t with
      | nil => rfl
      | cons c t => exact List.takeWhile_cons_of_neg (by simp [ht c rfl])
    rw [List.takeWhile_append_of_pos hv, hnil, List.append_nil]
  have heq : a = a' := by rw [← hstop ha hr, h, hstop ha' hr']
  subst heq
  exact ⟨rfl, List.append_cancel_left h⟩

/-- A name ends at the parenthesis behind it. -/
theorem IsName.append_inj {m m' : String} (hm : IsName m) (hm' : IsName m') {r r' : List Char}
    (h : m.toList ++ '(' :: r = m'.toList ++ '(' :: r') : m = m' ∧ r = r' := by
  have hstop (t : List Char) : ∀ c ∈ ('(' :: t).head?, isNameChar c = false := by
    rintro _ ⟨⟩
    decide
  obtain ⟨hname, hrest⟩ := append_inj_of_stop hm hm' (hstop r) (hstop r') h
  exact ⟨String.toList_inj.mp hname, (List.cons.inj hrest).2⟩

/-- What may stand behind an argument: a comma, a closing parenthesis or nothing. -/
def EndsArg (cs : List Char) : Prop :=
  ∀ c ∈ cs.head?, c = ',' ∨ c = ')'

theorem endsArg_close (cs : List Char) : EndsArg (')' :: cs) := by
  rintro _ ⟨⟩
  exact .inr rfl

theorem endsArg_textRest (as : List Arg) (cs : List Char) : EndsArg ((Arg.textRest as).toList ++ ')' :: cs) := by
  cases as with
  | nil => exact endsArg_close cs
  | cons a as =>
    rw [Arg.toList_textRest_cons]
    rintro _ ⟨⟩
    exact .inl rfl

/-- An integer ends where its argument does. -/
theorem int_append_inj {i i' : Int} {r r' : List Char} (hr : EndsArg r) (hr' : EndsArg r')
    (h : (toString i).toList ++ r = (toString i').toList ++ r') : i = i' ∧ r = r' := by
  have hdigits (j : Int) : ∀ c ∈ (toString j).toList, (c = '-' || c.isDigit) = true := by
    intro c hc
    simpa using mem_toString_int hc
  have hstop {t : List Char} (ht : EndsArg t) : ∀ c ∈ t.head?, (c = '-' || c.isDigit) = false := by
    intro c hc
    rcases ht c hc with rfl | rfl <;> decide
  obtain ⟨htext, hrest⟩ := append_inj_of_stop (p := fun c => c = '-' || c.isDigit) (hdigits i) (hdigits i')
    (hstop hr) (hstop hr') h
  exact ⟨Int.repr_inj.mp (String.toList_inj.mp htext), hrest⟩

/-! ## Calls and arguments -/

theorem Arg.exists_text (a : Arg) : ∃ c cs, a.text.toList = c :: cs ∧ IsOpening c := by
  rw [← Arg.write_compact 0 a]
  exact a.exists_opening .compact 0

/-- A call without arguments is followed by nothing that begins an argument. -/
theorem close_ne_text (a : Arg) (r r' : List Char) : ')' :: r ≠ a.text.toList ++ r' := by
  obtain ⟨c, cs, hcs, hc⟩ := a.exists_text
  intro h
  rw [hcs] at h
  exact hc.ne (by decide) (List.cons.inj h).1.symm

/-- Behind an argument there are no calls. -/
theorem eq_nil_of_textRest {ss : List Step} {r r' : List Char} (hr : EndsArg r)
    (h : r = (Step.textRest ss).toList ++ r') : ss = [] ∧ r = r' := by
  cases ss with
  | nil => exact ⟨rfl, h⟩
  | cons s ss =>
    obtain ⟨cs, hcs⟩ := s.exists_dot .compact 0
    rw [Step.write_compact] at hcs
    rw [Step.textRest, String.toList_append, hcs] at h
    rcases hr '.' (by rw [h]; rfl) with hdot | hdot <;> cases hdot

/-- A call that is written as a call without arguments is one. -/
theorem Step.eq_of_keyword {m : String} (hm : IsName m) {s : Step} (hs : IsName s.method) {r r' : List Char}
    (h : (Step.mk m []).text.toList ++ r = s.text.toList ++ r') : s = .mk m [] ∧ r = r' := by
  obtain ⟨m', as⟩ := s
  rw [Step.toList_text_nil] at h
  cases as with
  | nil =>
    rw [Step.toList_text_nil] at h
    simp only [List.cons_append, List.append_assoc, List.cons.injEq, true_and] at h
    obtain ⟨rfl, hrest⟩ := hm.append_inj hs h
    exact ⟨rfl, (List.cons.inj hrest).2⟩
  | cons a as =>
    rw [Step.toList_text_cons] at h
    simp only [List.cons_append, List.append_assoc, List.cons.injEq, true_and] at h
    exact absurd (hm.append_inj hs h).2 (close_ne_text a _ _)

/-- A chain that is written as an empty one is empty or the call of `Null`. -/
theorem Step.filledOf_of_null {s : Step} {ss : List Step} (hs : IsName s.method) {r r' : List Char} (hr : EndsArg r)
    (h : (Step.textOf []).toList ++ r = (Step.textOf (s :: ss)).toList ++ r') :
    Step.filledOf [] = Step.filledOf (s :: ss) ∧ r = r' := by
  have hcall : (Step.mk "Null" []).text.toList ++ r = s.text.toList ++ ((Step.textRest ss).toList ++ r') := by
    rw [Step.textOf, Step.textOf] at h
    simp only [String.toList_append, List.append_assoc] at h
    exact (List.append_right_inj "jen".toList).mp h
  obtain ⟨rfl, hrest⟩ := Step.eq_of_keyword isName_null hs hcall
  obtain ⟨rfl, hrest⟩ := eq_nil_of_textRest hr hrest
  exact ⟨rfl, hrest⟩

/-- Whether an argument is a chain, a text or an integer. -/
def Arg.kind : Arg → Nat
  | .code _ => 0
  | .quoted _ => 1
  | .int _ => 2

/-- The first character of an argument tells which. -/
theorem Arg.OpensWith.kind_eq {c : Char} {a : Arg} (h : a.OpensWith c) :
    a.kind = if c = 'j' then 0 else if c = '"' then 1 else 2 := by
  cases a with
  | code _ =>
    obtain rfl : c = 'j' := h
    rfl
  | quoted _ =>
    obtain rfl : c = '"' := h
    rfl
  | int _ =>
    have hne (d : Char) (hd : d ≠ '-' ∧ d.isDigit = false) : c ≠ d := by
      rintro rfl
      rcases h with h | h
      · exact hd.1 h
      · exact absurd h (by rw [hd.2]; decide)
    rw [if_neg (hne _ (by decide)), if_neg (hne _ (by decide)), Arg.kind]

/-- An argument that is not a chain is known from the first character on, and ends where its text or number does. -/
theorem Arg.filled_of_text (a a' : Arg) (hcode : a.kind ≠ 0 ∨ a'.kind ≠ 0) {r r' : List Char}
    (hr : EndsArg r) (hr' : EndsArg r') (h : a.text.toList ++ r = a'.text.toList ++ r') :
    a.filled = a'.filled ∧ r = r' := by
  obtain ⟨c, cs, hcs, hc⟩ := a.exists_opensWith .compact 0
  obtain ⟨c', cs', hcs', hc'⟩ := a'.exists_opensWith .compact 0
  have hkind : a.kind = a'.kind := by
    rw [← Arg.write_compact 0 a, ← Arg.write_compact 0 a', hcs, hcs'] at h
    rw [hc.kind_eq, hc'.kind_eq, (List.cons.inj h).1]
  cases a <;> cases a'
  case code.code => rcases hcode with hcode | hcode <;> exact absurd rfl hcode
  case quoted.quoted s s' =>
    rw [Arg.text, Arg.text] at h
    obtain ⟨rfl, hrest⟩ := encode_append_inj h
    exact ⟨rfl, hrest⟩
  case int.int i i' =>
    rw [Arg.text, Arg.text] at h
    obtain ⟨rfl, hrest⟩ := int_append_inj hr hr' h
    exact ⟨rfl, hrest⟩
  all_goals cases hkind

mutual

/-- A chain ends where its argument does. -/
theorem Step.textOf_append_inj : ∀ c d : List Step, (∀ s ∈ Step.deepAll c, IsName s.method) →
    (∀ s ∈ Step.deepAll d, IsName s.method) → ∀ r r' : List Char, EndsArg r → EndsArg r' →
      (Step.textOf c).toList ++ r = (Step.textOf d).toList ++ r' → Step.filledOf c = Step.filledOf d ∧ r = r'
  | [], [] => by
    intro _ _ r r' _ _ h
    exact ⟨rfl, List.append_cancel_left h⟩
  | [], s :: ss => by
    intro _ hd r r' hr _ h
    rw [Step.deepAll, List.forall_mem_append] at hd
    exact Step.filledOf_of_null (hd.1 s s.mem_deep) hr h
  | s :: ss, [] => by
    intro hc _ r r' _ hr' h
    rw [Step.deepAll, List.forall_mem_append] at hc
    obtain ⟨hfilled, hrest⟩ := Step.filledOf_of_null (hc.1 s s.mem_deep) hr' h.symm
    exact ⟨hfilled.symm, hrest.symm⟩
  | s :: ss, s' :: ss' => by
    intro hc hd r r' hr hr' h
    rw [Step.deepAll, List.forall_mem_append] at hc hd
    rw [Step.textOf, Step.textOf] at h
    simp only [String.toList_append, List.append_assoc] at h
    obtain ⟨hs, hrest⟩ := Step.text_append_inj s s' hc.1 hd.1 _ _ (List.append_cancel_left h)
    obtain ⟨hss, hrest⟩ := Step.textRest_append_inj ss ss' hc.2 hd.2 r r' hr hr' hrest
    exact ⟨by rw [Step.filledOf, Step.filledOf, hs, hss], hrest⟩
termination_by structural c => c

/-- So do further calls. -/
theorem Step.textRest_append_inj : ∀ ss ss' : List Step, (∀ s ∈ Step.deepAll ss, IsName s.method) →
    (∀ s ∈ Step.deepAll ss', IsName s.method) → ∀ r r' : List Char, EndsArg r → EndsArg r' →
      (Step.textRest ss).toList ++ r = (Step.textRest ss').toList ++ r' →
        Step.filledRest ss = Step.filledRest ss' ∧ r = r'
  | [], ss' => by
    intro _ _ r r' hr _ h
    obtain ⟨rfl, hrest⟩ := eq_nil_of_textRest hr h
    exact ⟨rfl, hrest⟩
  | s :: ss, [] => by
    intro _ _ r r' _ hr' h
    obtain ⟨hnil, hrest⟩ := eq_nil_of_textRest hr' h.symm
    cases hnil
  | s :: ss, s' :: ss' => by
    intro hss hss' r r' hr hr' h
    rw [Step.deepAll, List.forall_mem_append] at hss hss'
    rw [Step.textRest, Step.textRest] at h
    simp only [String.toList_append, List.append_assoc] at h
    obtain ⟨hs, hrest⟩ := Step.text_append_inj s s' hss.1 hss'.1 _ _ h
    obtain ⟨hrests, hrest⟩ := Step.textRest_append_inj ss ss' hss.2 hss'.2 r r' hr hr' hrest
    exact ⟨by rw [Step.filledRest, Step.filledRest, hs, hrests], hrest⟩
termination_by structural ss => ss

/-- A call ends at its closing parenthesis. -/
theorem Step.text_append_inj : ∀ s s' : Step, (∀ t ∈ s.deep, IsName t.method) → (∀ t ∈ s'.deep, IsName t.method) →
    ∀ r r' : List Char, s.text.toList ++ r = s'.text.toList ++ r' → s.filled = s'.filled ∧ r = r'
  | .mk m [], s' => by
    intro hs hs' r r' h
    have hm : IsName m := hs (.mk m []) List.mem_cons_self
    obtain ⟨rfl, hrest⟩ := Step.eq_of_keyword hm (hs' s' s'.mem_deep) h
    exact ⟨rfl, hrest⟩
  | .mk m (a :: as), .mk m' [] => by
    intro hs hs' r r' h
    have hm' : IsName m' := hs' (.mk m' []) List.mem_cons_self
    obtain ⟨heq, -⟩ := Step.eq_of_keyword hm' (hs (.mk m (a :: as)) List.mem_cons_self) h.symm
    cases heq
  | .mk m (a :: as), .mk m' (a' :: as') => by
    intro hs hs' r r' h
    rw [Step.deep, Arg.deepAll_cons, List.forall_mem_cons, List.forall_mem_append] at hs hs'
    obtain ⟨hname, ha, has⟩ := hs
    obtain ⟨hname', ha', has'⟩ := hs'
    have hm : IsName m := hname
    have hm' : IsName m' := hname'
    rw [Step.toList_text_cons, Step.toList_text_cons] at h
    simp only [List.cons_append, List.append_assoc, List.cons.injEq, true_and, List.nil_append] at h
    obtain ⟨rfl, hargs⟩ := hm.append_inj hm' h
    obtain ⟨harg, hrest⟩ := Arg.text_append_inj a a' ha ha' _ _ (endsArg_textRest as r) (endsArg_textRest as' r') hargs
    obtain ⟨hrests, hrest⟩ := Arg.textRest_append_inj as as' has has' r r' hrest
    exact ⟨by rw [Step.filled, Step.filled, Arg.filledAll, Arg.filledAll, harg, hrests], hrest⟩
termination_by structural s => s

/-- Further arguments end at that parenthesis. -/
theorem Arg.textRest_append_inj : ∀ as as' : List Arg, (∀ s ∈ Arg.deepAll as, IsName s.method) →
    (∀ s ∈ Arg.deepAll as', IsName s.method) → ∀ r r' : List Char,
      (Arg.textRest as).toList ++ ')' :: r = (Arg.textRest as').toList ++ ')' :: r' →
        Arg.filledAll as = Arg.filledAll as' ∧ r = r'
  | [], [] => by
    intro _ _ r r' h
    exact ⟨rfl, (List.cons.inj h).2⟩
  | [], a' :: as' => by
    intro _ _ r r' h
    rw [Arg.toList_textRest_cons] at h
    exact absurd (List.cons.inj h).1 (by decide)
  | a :: as, [] => by
    intro _ _ r r' h
    rw [Arg.toList_textRest_cons] at h
    exact absurd (List.cons.inj h).1 (by decide)
  | a :: as, a' :: as' => by
    intro has has' r r' h
    rw [Arg.deepAll_cons, List.forall_mem_append] at has has'
    rw [Arg.toList_textRest_cons, Arg.toList_textRest_cons] at h
    simp only [List.cons_append, List.append_assoc, List.cons.injEq, true_and] at h
    obtain ⟨harg, hrest⟩ := Arg.text_append_inj a a' has.1 has'.1 _ _ (endsArg_textRest as r) (endsArg_textRest as' r') h
    obtain ⟨hrests, hrest⟩ := Arg.textRest_append_inj as as' has.2 has'.2 r r' hrest
    exact ⟨by rw [Arg.filledAll, Arg.filledAll, harg, hrests], hrest⟩
termination_by structural as => as

/-- An argument ends where something stands that ends arguments. -/
theorem Arg.text_append_inj : ∀ a a' : Arg, (∀ s ∈ Arg.deepAll [a], IsName s.method) →
    (∀ s ∈ Arg.deepAll [a'], IsName s.method) → ∀ r r' : List Char, EndsArg r → EndsArg r' →
      a.text.toList ++ r = a'.text.toList ++ r' → a.filled = a'.filled ∧ r = r'
  | .code c, .code d => by
    intro hc hd r r' hr hr' h
    rw [Arg.deepAll, Arg.deepAll, List.append_nil] at hc hd
    rw [Arg.text, Arg.text] at h
    obtain ⟨hcode, hrest⟩ := Step.textOf_append_inj c d hc hd r r' hr hr' h
    exact ⟨by rw [Arg.filled, Arg.filled, hcode], hrest⟩
  | .code c, .quoted s => fun _ _ _ _ => Arg.filled_of_text (.code c) (.quoted s) (.inr Nat.noConfusion)
  | .code c, .int i => fun _ _ _ _ => Arg.filled_of_text (.code c) (.int i) (.inr Nat.noConfusion)
  | .quoted s, a' => fun _ _ _ _ => Arg.filled_of_text (.quoted s) a' (.inl Nat.noConfusion)
  | .int i, a' => fun _ _ _ _ => Arg.filled_of_text (.int i) a' (.inl Nat.noConfusion)
termination_by structural a => a

end

theorem endsArg_nil : EndsArg [] := by
  rintro _ ⟨⟩

/-- **The text of a chain is unambiguous.** Two chains have the same text if and only if they are the same once each
empty chain, at the top or as an argument, is the call of `Null` that it is written as. -/
theorem text_unambiguous (c d : Chain) (hc : c.Named) (hd : d.Named) : c.text = d.text ↔ c.filled = d.filled := by
  constructor
  · intro h
    have htext : (Step.textOf c).toList ++ [] = (Step.textOf d).toList ++ [] := by
      rw [show Step.textOf c = Step.textOf d from h]
    exact (Step.textOf_append_inj c d hc hd [] [] endsArg_nil endsArg_nil htext).1
  · intro h
    rw [← c.text_filled, h, d.text_filled]

/-- An empty argument and the call of `Null` have the same text, a text that looks like that call has another. -/
theorem text_unambiguous_null :
    let c : Chain := Chain.call "Index" [.code [], .int (-1)]
    let d : Chain := Chain.call "Index" [.code (Chain.keyword "Null"), .int (-1)]
    let e : Chain := Chain.call "Index" [.quoted "jen.Null()", .int (-1)]
    (c.Named ∧ d.Named ∧ e.Named) ∧ c.text = d.text ∧ c.text ≠ e.text := by
  intro c d e
  have hnamed : c.Named ∧ d.Named ∧ e.Named := by decide +kernel
  obtain ⟨hc, hd, he⟩ := hnamed
  refine ⟨⟨hc, hd, he⟩, (text_unambiguous c d hc hd).mpr rfl, fun h => ?_⟩
  have hfilled : c.filled = e.filled := (text_unambiguous c e hc he).mp h
  injection hfilled with hstep
  injection hstep with _ hargs
  injection hargs with harg
  cases harg

end GoRebuild
