import GoRebuild.Proofs.Synth.Depth

/-!
# What synthesis can give

* `Synth.Gives act P` : every chain, or other result, that a run of `act` gives has the property `P`, at any
  depth; a run that fails gives nothing (`Gives.bind`, `Gives.map`, `Gives.nested`).
-/

namespace GoRebuild.Synth

/-- Every result of a run has a property. -/
def Gives {α : Type} (act : Synth α) (P : α → Prop) : Prop :=
  ∀ depth a depth', act.run.run depth = (.ok a, depth') → P a

variable {α β : Type} {act : Synth α} {P : α → Prop} {Q : β → Prop}

theorem gives_pure {a : α} (h : P a) : Gives (pure a) P := by
  intro depth b depth' hrun
  cases hrun
  exact h

theorem pure_inj {a b : α} : (pure a : Synth α) = pure b ↔ a = b := by
  constructor
  · intro h
    have hanswer : answer (pure a) = answer (pure b) := by rw [h]
    exact Except.ok.inj hanswer
  · rintro rfl
    rfl

theorem gives_unsupported (kind : String) (pos : Pos) : Gives (unsupported kind pos) P := by
  intro depth b depth' hrun
  cases hrun

theorem Gives.mono (h : Gives act P) {R : α → Prop} (hPR : ∀ a, P a → R a) : Gives act R :=
  fun depth a depth' hrun => hPR a (h depth a depth' hrun)

theorem Gives.bind (h : Gives act P) {f : α → Synth β} (hf : ∀ a, P a → Gives (f a) Q) :
    Gives (act >>= f) Q := by
  intro depth b depth' hrun
  rw [run_bind] at hrun
  rcases hact : act.run.run depth with ⟨r, d⟩
  rw [hact] at hrun
  cases r with
  | ok a => exact hf a (h depth a d hact) d b depth' hrun
  | error e => cases hrun

/-- A step that only gives a result. -/
theorem gives_pure_bind {a : α} {f : α → Synth β} (h : Gives (f a) Q) : Gives (pure a >>= f) Q :=
  (gives_pure (P := (· = a)) rfl).bind fun _ hb => hb ▸ h

theorem Gives.map (h : Gives act P) {f : α → β} (hf : ∀ a, P a → Q (f a)) :
    Gives (act >>= fun a => pure (f a)) Q :=
  h.bind fun a ha => gives_pure (hf a ha)

theorem Gives.nested (s : Scope) (pos : Pos) (h : Gives act P) : Gives (nested s pos act) P := by
  intro depth a depth' hrun
  change Synth.nested s pos act depth = (.ok a, depth') at hrun
  unfold Synth.nested at hrun
  split at hrun
  · cases hrun
  · exact h (depth + 1) a (act (depth + 1)).2 (Prod.ext (Prod.ext_iff.mp hrun).1 rfl)

end GoRebuild.Synth
