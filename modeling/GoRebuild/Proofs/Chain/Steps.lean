import GoRebuild.Chain.Printer
import GoRebuild.Proofs.Lexical.Scanner
import GoRebuild.Proofs.Text.Digits
import Mathlib.Data.List.Basic

/-!
# All calls of a chain

* `Chain.deep` : the calls of a chain and of the chains among their arguments, in the order in which they are written
  (`deep_append`, `deep_call`, `deep_group`);
* `isNameChar`, `Chain.Named` : no method has a sign in its name;
* `Step.writeOf_compact` : on one line the layout of a chain is its text;
* `IsOpening`, `Arg.exists_opening` : how an argument begins, in any layout.
-/

namespace GoRebuild
open Text

mutual

/-- A call, then those in its arguments. -/
def Step.deep : Step → List Step
  | .mk m as => .mk m as :: Arg.deepAll as

/-- The same of each call. -/
def Step.deepAll : List Step → List Step
  | [] => []
  | s :: ss => s.deep ++ Step.deepAll ss

/-- The calls in arguments. -/
def Arg.deepAll : List Arg → List Step
  | [] => []
  | .code c :: as => Step.deepAll c ++ Arg.deepAll as
  | .quoted _ :: as | .int _ :: as => Arg.deepAll as

end

theorem Step.mem_deep (s : Step) : s ∈ s.deep := by
  cases s with
  | mk m as =>
    rw [Step.deep]
    exact List.mem_cons_self

theorem Arg.deepAll_cons (a : Arg) (as : List Arg) : Arg.deepAll (a :: as) = Arg.deepAll [a] ++ Arg.deepAll as := by
  cases a with
  | code c => rw [Arg.deepAll, Arg.deepAll, Arg.deepAll, List.append_nil]
  | quoted _ | int _ => rw [Arg.deepAll, Arg.deepAll, Arg.deepAll, List.nil_append]

namespace Chain

/-- The calls of a chain, each followed by those in its arguments. -/
def deep (c : Chain) : List Step :=
  Step.deepAll c

@[simp] theorem deep_nil : deep [] = [] := rfl

@[simp] theorem deep_append (c d : Chain) : deep (c ++ d) = deep c ++ deep d := by
  induction c with
  | nil => rfl
  | cons s ss ih =>
    show s.deep ++ deep (ss ++ d) = s.deep ++ deep ss ++ deep d
    rw [ih, List.append_assoc]

theorem deep_call (m : String) (args : List Arg) : deep (call m args) = .mk m args :: Arg.deepAll args := by
  show Step.deep (.mk m args) ++ [] = _
  rw [List.append_nil, Step.deep]

theorem deepAll_code (cs : List Chain) : Arg.deepAll (cs.map .code) = cs.flatMap deep := by
  induction cs with
  | nil => rfl
  | cons c cs ih => rw [List.map_cons, Arg.deepAll, ih, List.flatMap_cons, deep]

theorem deep_group (m : String) (cs : List Chain) :
    deep (group m cs) = .mk m (cs.map .code) :: cs.flatMap deep := by
  rw [group, deep_call, deepAll_code]

end Chain

/-! ## Names of methods -/

/-- A letter, a digit, an underscore or any character beyond ASCII. -/
def isNameChar (c : Char) : Bool :=
  c.isAlphanum || c = '_' || 128 ≤ c.toNat

/-- A text with no sign in it. -/
def IsName (text : String) : Prop :=
  ∀ c ∈ text.toList, isNameChar c

instance : DecidablePred IsName :=
  fun text => decidable_of_iff (text.toList.all isNameChar = true) List.all_eq_true

/-- The methods of a chain have no signs in their names, at any depth. -/
def Chain.Named (c : Chain) : Prop :=
  ∀ s ∈ c.deep, IsName s.method

instance : DecidablePred Chain.Named :=
  fun c => inferInstanceAs (Decidable (∀ s ∈ c.deep, IsName s.method))

theorem isName_jen : IsName "jen" := by
  decide +kernel

theorem isName_null : IsName "Null" := by
  decide +kernel

/-- A sign is no part of a name. -/
theorem IsName.ne {text : String} (h : IsName text) {c d : Char} (hc : c ∈ text.toList) (hd : isNameChar d = false) :
    c ≠ d := by
  rintro rfl
  rw [h c hc] at hd
  cases hd

/-! ## Texts -/

mutual

theorem Step.writeOf_compact (n : Nat) : ∀ c : List Step, Step.writeOf .compact n c = Step.textOf c
  | [] => rfl
  | s :: ss => by rw [Step.writeOf, Step.textOf, Step.write_compact n s, Step.writeRest_compact n ss]

theorem Step.writeRest_compact (n : Nat) : ∀ ss : List Step, Step.writeRest .compact n ss = Step.textRest ss
  | [] => rfl
  | s :: ss => by rw [Step.writeRest, Step.textRest, Step.write_compact n s, Step.writeRest_compact n ss]

theorem Step.write_compact (n : Nat) : ∀ s : Step, s.write .compact n = s.text
  | .mk _ [] => rfl
  | .mk m (a :: as) => by
    have hbreaks : Layout.compact.breaks m (as.length + 1) = false := rfl
    rw [Step.write, hbreaks, if_neg Bool.false_ne_true, Step.text, Arg.write_compact n a, Arg.writeRest_compact n as]

theorem Arg.writeRest_compact (n : Nat) : ∀ as : List Arg, Arg.writeRest .compact n as = Arg.textRest as
  | [] => rfl
  | a :: as => by rw [Arg.writeRest, Arg.textRest, Arg.write_compact n a, Arg.writeRest_compact n as]

theorem Arg.write_compact (n : Nat) : ∀ a : Arg, a.write .compact n = a.text
  | .code c => Step.writeOf_compact n c
  | .quoted _ | .int _ => rfl

end

/-! ## Characters -/

section
variable {l : Layout} {n : Nat} {m : String} {a : Arg} {as : List Arg}

theorem Step.toList_write_nil :
    ((Step.mk m []).write l n).toList = '.' :: (m.toList ++ ['(', ')']) := by
  simp [Step.write]

/-- A broken call. -/
theorem Step.toList_write_broken (h : l.breaks m (as.length + 1)) : ((Step.mk m (a :: as)).write l n).toList =
    '.' :: (m.toList ++ '(' :: '\n' :: ((tabs (n + 1)).toList ++ ((a.write l (n + 1)).toList ++
      ',' :: '\n' :: ((Arg.writeLines l (n + 1) as).toList ++ ((tabs n).toList ++ [')']))))) := by
  simp [Step.write, h]

/-- A call on one line. -/
theorem Step.toList_write_inline (h : l.breaks m (as.length + 1) = false) :
    ((Step.mk m (a :: as)).write l n).toList =
      '.' :: (m.toList ++ '(' :: ((a.write l n).toList ++ ((Arg.writeRest l n as).toList ++ [')']))) := by
  simp [Step.write, h]

theorem Arg.toList_writeLines_cons : (Arg.writeLines l n (a :: as)).toList =
    (tabs n).toList ++ ((a.write l n).toList ++ ',' :: '\n' :: (Arg.writeLines l n as).toList) := by
  simp [Arg.writeLines]

theorem Arg.toList_writeRest_cons : (Arg.writeRest l n (a :: as)).toList =
    ',' :: ' ' :: ((a.write l n).toList ++ (Arg.writeRest l n as).toList) := by
  simp [Arg.writeRest]

theorem Step.toList_text_nil : (Step.mk m []).text.toList = '.' :: (m.toList ++ ['(', ')']) := by
  simp [Step.text]

theorem Step.toList_text_cons : (Step.mk m (a :: as)).text.toList =
    '.' :: (m.toList ++ '(' :: (a.text.toList ++ ((Arg.textRest as).toList ++ [')']))) := by
  simp [Step.text]

theorem Arg.toList_textRest_cons : (Arg.textRest (a :: as)).toList =
    ',' :: ' ' :: (a.text.toList ++ (Arg.textRest as).toList) := by
  simp [Arg.textRest]

end

/-- The character that an argument begins with. -/
def IsOpening (c : Char) : Prop :=
  c = 'j' ∨ c = '"' ∨ c = '-' ∨ c.isDigit

theorem IsOpening.ne {c d : Char} (h : IsOpening c) (hd : d ≠ 'j' ∧ d ≠ '"' ∧ d ≠ '-' ∧ d.isDigit = false) :
    c ≠ d := by
  rintro rfl
  rcases h with h | h | h | h
  · exact hd.1 h
  · exact hd.2.1 h
  · exact hd.2.2.1 h
  · rw [h] at hd
    cases hd.2.2.2

/-- An integer is written with digits, behind a minus if it is negative. -/
theorem toList_toString_int (i : Int) :
    (toString i).toList = (if i < 0 then ['-'] else []) ++ Nat.toDigits 10 i.natAbs := by
  cases i with
  | ofNat n =>
    rw [if_neg (show ¬Int.ofNat n < 0 from Int.not_lt.mpr (Int.natCast_nonneg n))]
    exact String.toList_ofList
  | negSucc n =>
    rw [if_pos (Int.negSucc_lt_zero n), Int.toString_eq_repr, Int.repr, String.toList_append, Nat.toList_repr]
    rfl

theorem mem_toString_int {i : Int} {c : Char} (hc : c ∈ (toString i).toList) : c = '-' ∨ c.isDigit := by
  rw [toList_toString_int] at hc
  rcases List.mem_append.mp hc with hsign | hdigit
  · split at hsign
    · exact .inl (List.mem_singleton.mp hsign)
    · cases hsign
  · exact .inr (isDigit_of_mem_toDigits hdigit)

theorem toString_int_ne_nil (i : Int) : (toString i).toList ≠ [] := by
  rw [toList_toString_int]
  exact List.append_ne_nil_of_right_ne_nil _ Nat.toDigits_ne_nil

/-- A chain begins with the name of the builder. -/
theorem Step.exists_writeOf (l : Layout) (n : Nat) (c : List Step) :
    ∃ cs, (Step.writeOf l n c).toList = 'j' :: 'e' :: 'n' :: cs := by
  cases c with
  | nil =>
    refine ⟨['.', 'N', 'u', 'l', 'l', '(', ')'], ?_⟩
    rw [Step.writeOf]
    rfl
  | cons s ss =>
    refine ⟨(s.write l n).toList ++ (Step.writeRest l n ss).toList, ?_⟩
    rw [Step.writeOf, String.toList_append, String.toList_append, List.append_assoc]
    rfl

/-- An argument of each kind begins with characters of its own. -/
def Arg.OpensWith (c : Char) : Arg → Prop
  | .code _ => c = 'j'
  | .quoted _ => c = '"'
  | .int _ => c = '-' ∨ c.isDigit

theorem Arg.exists_opensWith (l : Layout) (n : Nat) (a : Arg) :
    ∃ c cs, (a.write l n).toList = c :: cs ∧ a.OpensWith c := by
  cases a with
  | code c =>
    obtain ⟨cs, hcs⟩ := Step.exists_writeOf l n c
    exact ⟨_, _, hcs, rfl⟩
  | quoted s =>
    refine ⟨'"', s.toList.flatMap Quoted.escape ++ ['"'], ?_, rfl⟩
    rw [Arg.write, Quoted.encode, String.toList_ofList, Quoted.encodeChars]
  | int i =>
    obtain ⟨c, cs, hcs⟩ := List.exists_cons_of_ne_nil (toString_int_ne_nil i)
    exact ⟨c, cs, hcs, mem_toString_int (hcs ▸ List.mem_cons_self)⟩

/-- An argument begins with the name of the builder, a quote, a minus or a digit. -/
theorem Arg.exists_opening (l : Layout) (n : Nat) (a : Arg) :
    ∃ c cs, (a.write l n).toList = c :: cs ∧ IsOpening c := by
  obtain ⟨c, cs, hcs, hc⟩ := a.exists_opensWith l n
  refine ⟨c, cs, hcs, ?_⟩
  cases a with
  | code _ => exact .inl hc
  | quoted _ => exact .inr (.inl hc)
  | int _ => exact .inr (.inr hc)

end GoRebuild
