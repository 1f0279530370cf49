import GoRebuild.Program.Generator

/-!
# The depth counter comes back

Synthesis counts how deep it is nested. A computation that leaves the count as it found it, whether it gives a
chain or fails at any level, cannot tell what ran before it.

* `Synth.run_bind` : a run of two steps;
* `Synth.Balanced act` : every run of `act` ends as deep as it began (`Balanced.bind`, `Balanced.map`);
* `Synth.Balanced.run_eq_answer` : a balanced computation is its answer and the depth it began at.

Every rule is balanced (`Synth.Follows.balanced`, in `GoRebuild.Proofs.Nesting.Synthesis`).
-/

namespace GoRebuild

namespace Synth

/-- Every run ends as deep as it began, whether it fails or not. -/
def Balanced {α : Type} (act : Synth α) : Prop :=
  ∀ depth, (act.run.run depth).2 = depth

variable {α β : Type} {act : Synth α}

theorem balanced_pure (a : α) : Balanced (pure a : Synth α) := fun _ => rfl

/-- A run of two steps is the second step, at the depth where the first ended. -/
theorem run_bind (act : Synth α) (f : α → Synth β) (depth : Nat) :
    (act >>= f).run.run depth =
      match act.run.run depth with
      | (.ok a, d) => (f a).run.run d
      | (.error e, d) => (.error e, d) := by
  change (match act depth with | (r, d) => (ExceptT.bindCont f r) d) = _
  change _ = match act depth with | (.ok a, d) => f a d | (.error e, d) => (.error e, d)
  rcases act depth with ⟨r, d⟩
  cases r <;> rfl

theorem Balanced.bind (h : Balanced act) {f : α → Synth β} (hf : ∀ a, Balanced (f a)) :
    Balanced (act >>= f) := by
  intro depth
  have hact := h depth
  rw [run_bind]
  rcases hrun : act.run.run depth with ⟨r, d⟩
  rw [hrun] at hact
  subst hact
  cases r with
  | ok a => exact hf a _
  | error e => rfl

/-- A step whose result is only passed on. -/
theorem Balanced.map (h : Balanced act) (f : α → β) : Balanced (act >>= fun a => pure (f a)) :=
  h.bind fun _ => balanced_pure _

/-- The answer of a balanced computation at some depth, and that depth. -/
theorem Balanced.run_eq (h : Balanced act) (depth : Nat) :
    act.run.run depth = ((act.run.run depth).1, depth) :=
  Prod.ext rfl (h depth)

/-- On a new counter a balanced computation gives its answer and leaves the counter new. -/
theorem Balanced.run_eq_answer (h : Balanced act) : act.run.run 0 = (act.answer, 0) :=
  h.run_eq 0

end Synth

end GoRebuild
