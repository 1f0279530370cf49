import GoRebuild.Proofs.Reader.Related

/-!
# Reading at other limits

What the limit decides about in reading, whatever trees the parser gives. The readers of a tree are those of trees up
to its height, which bounds how deep they go.

* `KeptUnless P r r'` : one result is the other, unless that is a failure of some kind;
* `Reading.Kept`, `Reading.HasRoom` : readings of which the second keeps what the first gives; readings that have levels
  enough;
* `Readers.topLevel_upTo` : the readers of higher trees read a tree as well as those of its height;
* `File.read_of_le` : what does not fail for the nesting is read the same at a higher limit;
* `File.exists_limit` : from some limit on nothing fails for the nesting.
-/

namespace GoRebuild
open Parse (Node)

/-- The second result is the first, unless that is a failure of some kind. -/
def KeptUnless {ε α : Type} (P : ε → Prop) (r r' : Except ε α) : Prop :=
  (∃ e, r = .error e ∧ P e) ∨ r' = r

namespace KeptUnless

variable {ε ε' α β : Type} {P : ε → Prop} {r r' : Except ε α}

theorem refl (r : Except ε α) : KeptUnless P r r :=
  .inr rfl

theorem bind {k k' : α → Except ε β} (h : KeptUnless P r r') (hk : ∀ a, KeptUnless P (k a) (k' a)) :
    KeptUnless P (r >>= k) (r' >>= k') := by
  rcases h with ⟨e, rfl, he⟩ | rfl
  · exact .inl ⟨e, rfl, he⟩
  · cases r' with
    | error e => exact .inr rfl
    | ok a => exact hk a

theorem mapError {Q : ε' → Prop} {f : ε → ε'} (h : KeptUnless P r r') (hf : ∀ e, P e → Q (f e)) :
    KeptUnless Q (r.mapError f) (r'.mapError f) := by
  rcases h with ⟨e, rfl, he⟩ | rfl
  · exact .inl ⟨f e, rfl, hf e he⟩
  · exact .inr rfl

end KeptUnless

/-! ## Readings at two limits -/

namespace Reading

/-- At every depth the second reading gives what the first does, unless that fails for the nesting. -/
def Kept (α : Type) (act act' : Reading α) : Prop :=
  ∀ depth, KeptUnless ReadError.IsTooDeep (act depth) (act' depth)

/-- At depths with some levels left below a limit, a reading does not fail for the nesting. -/
def HasRoom (limit levels : Nat) (α : Type) (act _ : Reading α) : Prop :=
  ∀ depth e, depth + levels ≤ limit → act depth = .error e → ¬e.IsTooDeep

theorem keeps_eq : Keeps fun _ act act' => act = act' where
  pure _ := rfl
  throw _ := rfl
  bind hact hk := by
    subst hact
    exact bind_congr hk

theorem keeps_kept : Keeps Kept where
  pure _ _ := .refl _
  throw _ _ := .refl _
  bind hact hk depth := (hact depth).bind fun a => hk a depth

theorem keeps_hasRoom (limit levels : Nat) : Keeps (HasRoom limit levels) where
  pure _ _ _ _ he := nomatch he
  throw h _ _ _ he := by
    cases he
    exact h
  bind {_ _ act _ k _} hact hk depth e hlevels he := by
    change (act depth >>= fun a => k a depth) = _ at he
    cases ha : act depth with
    | error e' =>
      rw [ha] at he
      cases he
      exact hact depth _ hlevels ha
    | ok a =>
      rw [ha] at he
      exact hk a depth e hlevels he

variable {α : Type} {l l' : Nat} (t : Node) {act act' : Reading α}

theorem Kept.nested (hl : l ≤ l') (h : Kept α act act') : Kept α (t.nested l act) (t.nested l' act') := by
  intro depth
  unfold Node.nested
  split
  · exact .inl ⟨_, rfl, trivial⟩
  · rw [if_neg (by omega)]
    exact h (depth + 1)

theorem HasRoom.nested {levels : Nat} (h : HasRoom l levels α act act') :
    HasRoom l (levels + 1) α (t.nested l act) (t.nested l act') := by
  intro depth e hlevels he
  rw [Node.nested, if_neg (by omega)] at he
  exact h (depth + 1) e (by omega) he

end Reading

/-! ## Readers at two limits -/

namespace Readers
open Reading

theorem Related.zero {R : ∀ α : Type, Reading α → Reading α → Prop} (r r' : Readers) : Related R r r' 0 where
  expr _ hc := absurd hc (Nat.not_lt_zero _)
  exprKind _ hc := absurd hc (Nat.not_lt_zero _)
  stmt _ hc := absurd hc (Nat.not_lt_zero _)
  stmts _ hc := absurd hc (Nat.not_lt_zero _)

theorem upTo_same (limit : Nat) {n m m' : Nat} (hm : n ≤ m) (hm' : n ≤ m') :
    Related (fun _ act act' => act = act') (upTo limit m) (upTo limit m') n := by
  induction n generalizing m m' with
  | zero => exact .zero _ _
  | succ n ih =>
    obtain ⟨m, rfl⟩ := Nat.exists_eq_add_of_lt hm
    obtain ⟨m', rfl⟩ := Nat.exists_eq_add_of_lt hm'
    exact (ih (Nat.le_add_right n m) (Nat.le_add_right n m')).upTo_succ keeps_eq id fun t => congrArg (t.nested limit)

theorem upTo_kept {l l' : Nat} (hl : l ≤ l') (n : Nat) : Related Kept (upTo l n) (upTo l' n) n := by
  induction n with
  | zero => exact .zero _ _
  | succ n ih => exact ih.upTo_succ keeps_kept id fun t => Kept.nested t hl

theorem upTo_hasRoom (limit n : Nat) : Related (HasRoom limit n) (upTo limit n) (upTo limit n) n := by
  induction n with
  | zero => exact .zero _ _
  | succ n ih =>
    exact ih.upTo_succ (keeps_hasRoom limit n) (fun h depth e hlevels => h depth e (by omega)) fun t => HasRoom.nested t

/-- It is enough that the readers are those of trees that are as high. -/
theorem topLevel_upTo (limit : Nat) {n : Nat} {t : Node} (ht : t.height ≤ n) :
    (upTo limit n).topLevel t = (upTo limit t.height).topLevel t :=
  (upTo_same limit ht (Nat.le_refl _)).topLevel keeps_eq (Nat.le_refl _)

end Readers

/-! ## Sources -/

section
variable (parser : SourceParser) (source : String)

/-- A source that does not fail for the nesting is read the same at a higher limit. -/
theorem File.read_of_le {l l' : Nat} (hl : l ≤ l') :
    KeptUnless ReadError.IsTooDeep (File.read parser l source) (File.read parser l' source) := by
  unfold File.read
  cases parser source with
  | none => exact .refl _
  | some root => exact readFile_related Reading.keeps_kept (Readers.upTo_kept hl _) 0

/-- From the height of its tree on, a source does not fail for the nesting. -/
theorem File.exists_limit :
    ∃ bound, ∀ limit e, bound ≤ limit → File.read parser limit source = .error e → ¬e.IsTooDeep := by
  unfold File.read
  cases parser source with
  | none =>
    refine ⟨0, fun _ e _ h => ?_⟩
    cases h
    exact id
  | some root =>
    refine ⟨root.height, fun limit e hlimit => ?_⟩
    exact readFile_related (Reading.keeps_hasRoom limit root.height) (Readers.upTo_hasRoom limit _) 0 e (by omega)

end

end GoRebuild
