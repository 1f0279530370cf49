import GoRebuild.Grammar.Parser
import GoRebuild.Proofs.Grammar.Reads
import GoRebuild.Proofs.Lexical.Scans

/-!
# Parsers on known tokens

* `Parses p us vs P` : on tokens spelled `us` a parser gives something with a property and leaves `vs`;
* `Fails p us` : on such tokens it fails;
* `Parses.bind`, `Parses.orElse`, `Fails.orElse`, `Fails.bind` : what follows for steps one after the other and for
  choices;
* `parses_take`, `parses_takes`, `parses_sees`, `parses_ends` and so on : the parsers for one token;
* `Parses.commaList` : rows.
-/

namespace GoRebuild.Grammar
open Lexical Scan

variable {α β : Type}

/-- On tokens with these spellings a parser gives something with a property and leaves those. -/
def Parses (p : Parser α) (us vs : List Spelling) (P : α → Prop) : Prop :=
  ∀ ts, ts.map Token.spelling = us → ∃ x rest, p ts = some (x, rest) ∧ rest.map Token.spelling = vs ∧ P x

/-- On tokens with these spellings a parser fails. -/
def Fails (p : Parser α) (us : List Spelling) : Prop :=
  ∀ ts, ts.map Token.spelling = us → p ts = none

variable {p q : Parser α} {k : α → Parser β} {us vs ws : List Spelling} {P P' : α → Prop} {Q : β → Prop}

theorem exists_cons_of_spellings {ts : List Token} {u : Spelling} (h : ts.map Token.spelling = u :: us) :
    ∃ t rest, ts = t :: rest ∧ t.spelling = u ∧ rest.map Token.spelling = us := by
  cases ts with
  | nil => cases h
  | cons t rest =>
    cases h
    exact ⟨t, rest, rfl, rfl, rfl⟩

/-! ## Steps and choices -/

theorem Parses.pure {x : α} (h : P x) : Parses (pure x) us us P :=
  fun ts hts => ⟨x, ts, rfl, hts, h⟩

theorem Parses.bind (h : Parses p us vs P) (hk : ∀ x, P x → Parses (k x) vs ws Q) : Parses (p >>= k) us ws Q := by
  intro ts hts
  obtain ⟨x, mid, hp, hmid, hx⟩ := h ts hts
  obtain ⟨y, rest, hy, hrest, hQ⟩ := hk x hx mid hmid
  exact ⟨y, rest, bind_eq_some.mpr ⟨x, mid, hp, hy⟩, hrest, hQ⟩

theorem Parses.mono (h : Parses p us vs P) (hP : ∀ x, P x → P' x) : Parses p us vs P' := by
  intro ts hts
  obtain ⟨x, rest, hp, hrest, hx⟩ := h ts hts
  exact ⟨x, rest, hp, hrest, hP x hx⟩

/-- Parsers that do the same on a token do it on its spelling. -/
theorem Parses.congr {u : Spelling} (h : Parses q (u :: us) vs P) (heq : ∀ t ts, t.spelling = u → p (t :: ts) = q (t :: ts)) :
    Parses p (u :: us) vs P := by
  intro ts hts
  obtain ⟨t, rest, rfl, hu, -⟩ := exists_cons_of_spellings hts
  rw [heq t rest hu]
  exact h _ hts

theorem Fails.congr {u : Spelling} (h : Fails q (u :: us)) (heq : ∀ t ts, t.spelling = u → p (t :: ts) = q (t :: ts)) :
    Fails p (u :: us) := by
  intro ts hts
  obtain ⟨t, rest, rfl, hu, -⟩ := exists_cons_of_spellings hts
  rw [heq t rest hu]
  exact h _ hts

theorem Fails.failure : Fails (failure : Parser α) us :=
  fun _ _ => rfl

theorem bind_eq_none {ts : List Token} (h : ∀ x rest, p ts = some (x, rest) → k x rest = none) : (p >>= k) ts = none := by
  cases hbind : (p >>= k) ts with
  | none => rfl
  | some r =>
    obtain ⟨x, mid, hp, hk⟩ := bind_eq_some.mp hbind
    rw [h x mid hp] at hk
    cases hk

theorem Fails.bind (h : Fails p us) : Fails (p >>= k) us := by
  intro ts hts
  refine bind_eq_none fun x rest hp => ?_
  rw [h ts hts] at hp
  cases hp

/-- A later step fails. -/
theorem Parses.fails (h : Parses p us vs P) (hk : ∀ x, P x → Fails (k x) vs) : Fails (p >>= k) us := by
  intro ts hts
  obtain ⟨x, mid, hp, hmid, hx⟩ := h ts hts
  refine bind_eq_none fun y rest hy => ?_
  rw [hp] at hy
  cases hy
  exact hk x hx mid hmid

theorem Parses.orElse (h : Parses p us vs P) : Parses (p <|> q) us vs P := by
  intro ts hts
  obtain ⟨x, rest, hp, hrest⟩ := h ts hts
  refine ⟨x, rest, ?_, hrest⟩
  change (p ts <|> q ts) = _
  rw [hp]
  rfl

theorem Fails.orElse (h : Fails p us) (hq : Parses q us vs P) : Parses (p <|> q) us vs P := by
  intro ts hts
  obtain ⟨x, rest, hx, hrest⟩ := hq ts hts
  refine ⟨x, rest, ?_, hrest⟩
  change (p ts <|> q ts) = _
  rw [h ts hts, hx]
  rfl

theorem Fails.both (h : Fails p us) (hq : Fails q us) : Fails (p <|> q) us := by
  intro ts hts
  change (p ts <|> q ts) = _
  rw [h ts hts, hq ts hts]
  rfl

theorem Parses.map {f : α → β} (h : Parses p us vs P) (hf : ∀ x, P x → Q (f x)) : Parses (f <$> p) us vs Q :=
  .bind h fun x hx => .pure (hf x hx)

theorem Fails.map {f : α → β} (h : Fails p us) : Fails (f <$> p) us := by
  intro ts hts
  change (p ts >>= fun r => Pure.pure (f r.1, r.2)) = none
  rw [h ts hts]
  rfl

/-- What is not there is left out. -/
theorem Fails.optional (h : Fails p us) : Parses (optional p) us us (· = none) :=
  Fails.orElse (.map h) (.pure rfl)

theorem Parses.optional (h : Parses p us vs P) : Parses (optional p) us vs fun x => ∃ y, x = some y ∧ P y :=
  .orElse (.map h fun y hy => ⟨y, rfl, hy⟩)

theorem Parses.only (h : Parses p us vs P) : Parses (Scan.only true p) us vs fun x => ∃ y, x = some y ∧ P y :=
  .bind h fun y hy => .pure ⟨y, rfl, hy⟩

theorem Parses.omitted : Parses (Scan.only false p) us us (· = none) :=
  .pure rfl

/-- A choice by what comes first. -/
theorem Parses.ifTrue {c : Parser Bool} (hc : Parses c us vs (· = true)) (h : Parses p vs ws P) :
    Parses (do if ← c then p else q) us ws P :=
  .bind hc fun b hb => by rwa [if_pos hb]

theorem Parses.ifFalse {c : Parser Bool} (hc : Parses c us vs (· = false)) (h : Parses q vs ws P) :
    Parses (do if ← c then p else q) us ws P :=
  .bind hc fun b hb => by rwa [if_neg (by rw [hb]; exact Bool.false_ne_true)]

theorem Parses.require {b : Bool} (hb : b) : Parses (require b) us us fun _ => True := by
  rw [Scan.require, if_pos hb]
  exact .pure trivial

theorem Fails.require {b : Bool} (hb : b = false) : Fails (require b) us := by
  rw [Scan.require, if_neg (by rw [hb]; exact Bool.false_ne_true)]
  exact .failure

/-! ## One token -/

variable {u : Spelling}

theorem parses_next : Parses next? us us fun t => t.map Token.spelling = us.head? :=
  fun ts hts => ⟨ts.head?, ts, rfl, hts, hts ▸ List.head?_map.symm⟩

theorem parses_sees (text : String) : Parses (sees text) (u :: us) (u :: us) (· = (u.text == text)) := by
  intro ts hts
  obtain ⟨t, rest, rfl, rfl, hrest⟩ := exists_cons_of_spellings hts
  exact ⟨_, _, rfl, hts, rfl⟩

theorem parses_sees_not {text : String} (h : u.text ≠ text) : Parses (sees text) (u :: us) (u :: us) (· = false) :=
  .mono (parses_sees text) fun _ hb => hb.trans (beq_false_of_ne h)

theorem parses_sees_self {text : String} (h : u.text = text) : Parses (sees text) (u :: us) (u :: us) (· = true) :=
  .mono (parses_sees text) fun _ hb => hb.trans (beq_iff_eq.mpr h)

theorem parses_seesAll (texts : List String) :
    Parses (seesAll texts) us us (· = texts.isPrefixOf ((us.take texts.length).map Spelling.text)) := by
  intro ts hts
  refine ⟨_, _, rfl, hts, ?_⟩
  rw [← hts, ← List.map_take, List.map_map]
  rfl

theorem parses_ends (line : Bool) : Parses (ends line) (u :: us) (u :: us) (· = (line && u.newLine)) := by
  intro ts hts
  obtain ⟨t, rest, rfl, rfl, hrest⟩ := exists_cons_of_spellings hts
  exact ⟨_, _, rfl, hts, rfl⟩

theorem parses_here : Parses here (u :: us) (u :: us) fun _ => True := by
  intro ts hts
  obtain ⟨t, rest, rfl, rfl, hrest⟩ := exists_cons_of_spellings hts
  exact ⟨_, _, rfl, hts, trivial⟩

theorem parses_take {text : String} (h : u.text = text) : Parses (take text) (u :: us) us fun _ => True := by
  intro ts hts
  obtain ⟨t, rest, rfl, rfl, hrest⟩ := exists_cons_of_spellings hts
  exact ⟨_, _, if_pos (beq_iff_eq.mpr h), hrest, trivial⟩

theorem fails_take {text : String} (h : u.text ≠ text) : Fails (take text) (u :: us) := by
  intro ts hts
  obtain ⟨t, rest, rfl, rfl, hrest⟩ := exists_cons_of_spellings hts
  exact if_neg fun heq => h (beq_iff_eq.mp heq)

theorem parses_takes {text : String} (h : u.text = text) : Parses (takes text) (u :: us) us (· = true) := by
  intro ts hts
  obtain ⟨t, rest, rfl, rfl, hrest⟩ := exists_cons_of_spellings hts
  exact ⟨_, _, if_pos (beq_iff_eq.mpr h), hrest, rfl⟩

theorem parses_takes_not {text : String} (h : u.text ≠ text) : Parses (takes text) (u :: us) (u :: us) (· = false) := by
  intro ts hts
  obtain ⟨t, rest, rfl, rfl, hrest⟩ := exists_cons_of_spellings hts
  exact ⟨_, _, if_neg fun heq => h (beq_iff_eq.mp heq), hts, rfl⟩

theorem parses_takeName (h : u.kind = .word) : Parses takeName (u :: us) us (·.text = u.text) := by
  intro ts hts
  obtain ⟨t, rest, rfl, rfl, hrest⟩ := exists_cons_of_spellings hts
  exact ⟨_, _, if_pos h, hrest, rfl⟩

theorem fails_takeName (h : u.kind ≠ .word) : Fails takeName (u :: us) := by
  intro ts hts
  obtain ⟨t, rest, rfl, rfl, hrest⟩ := exists_cons_of_spellings hts
  exact if_neg h

theorem parses_takeText (h : u.kind = .literal .string) : Parses takeText (u :: us) us (· = u.text) := by
  intro ts hts
  obtain ⟨t, rest, rfl, rfl, hrest⟩ := exists_cons_of_spellings hts
  exact ⟨_, _, if_pos h, hrest, rfl⟩

/-- A line break ends a statement or declaration. -/
theorem parses_takeEnd (h : u.newLine) : Parses takeEnd (u :: us) (⟨u.kind, u.text, false⟩ :: us) fun _ => True := by
  intro ts hts
  obtain ⟨t, rest, rfl, rfl, hrest⟩ := exists_cons_of_spellings hts
  refine ⟨_, _, if_pos h, ?_, trivial⟩
  rw [List.map_cons, hrest]
  rfl

/-- So does the end of the source. -/
theorem parses_takeEnd_nil : Parses takeEnd [] [] fun _ => True := by
  intro ts hts
  cases List.map_eq_nil_iff.mp hts
  exact ⟨_, _, rfl, rfl, trivial⟩

/-! ## Rows -/

theorem parses_many_nil (h : Fails p us) (n : Nat) : Parses (many p n) us us (· = []) := by
  cases n with
  | zero => exact .pure rfl
  | succ n => exact Fails.orElse (.bind h) (.pure rfl)

theorem parses_many_cons {n : Nat} {R : List α → Prop} (h : Parses p us vs P) (hmore : Parses (many p n) vs ws R) :
    Parses (many p (n + 1)) us ws fun xs => ∃ y ys, xs = y :: ys ∧ P y ∧ R ys :=
  .orElse (.bind h fun y hy => .bind hmore fun ys hys => .pure ⟨y, ys, rfl, hy, hys⟩)

theorem parses_closing {bracket : String} (hcomma : u.text ≠ ",") (h : u.text = bracket) :
    Parses (closing bracket) (u :: us) us fun _ => True :=
  .bind (parses_takes_not hcomma) fun _ _ => .bind (parses_take h) fun _ _ => .pure trivial

theorem parses_closing_comma {bracket : String} {v : Spelling} (hcomma : v.text = ",") (h : u.text = bracket) :
    Parses (closing bracket) (v :: u :: us) us fun _ => True :=
  .bind (parses_takes hcomma) fun _ _ => .bind (parses_take h) fun _ _ => .pure trivial

end GoRebuild.Grammar
