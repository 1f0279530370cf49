/-!
# Reading from the front of a row

* `Scan τ α` : takes items from the front of a row, or fails; `<|>` goes back to where it was;
* `many`, `only`, `require` : repetition and conditions;
* `separated` : entries with a separator between any two;
* `left` : how long the rest is, which bounds every repetition.
-/

namespace GoRebuild

/-- A computation that takes items from the front of a row, or fails. -/
abbrev Scan (τ α : Type) := StateT (List τ) Option α

namespace Scan

variable {τ α : Type}

/-- The next item, which is not taken. -/
def next? : Scan τ (Option τ) := fun ts => some (ts.head?, ts)

/-- How many items are left. -/
def left : Scan τ Nat := fun ts => some (ts.length, ts)

/-- Takes an item with a property. -/
def item (p : τ → Bool) : Scan τ τ := fun ts =>
  match ts with
  | t :: rest => if p t then some (t, rest) else none
  | [] => none

/-- Takes the items up to the first without a property. -/
def while' (p : τ → Bool) : Scan τ (List τ) := fun ts =>
  some (ts.takeWhile p, ts.dropWhile p)

/-- What a scan gives, as often as it succeeds, but no more than so many times. -/
def many (p : Scan τ α) : Nat → Scan τ (List α)
  | 0 => pure []
  | n + 1 => (do
      let x ← p
      let xs ← many p n
      pure (x :: xs)) <|> pure []

/-- What a scan gives, if a condition holds. -/
def only (b : Bool) (p : Scan τ α) : Scan τ (Option α) :=
  if b then do
    let x ← p
    pure (some x)
  else pure none

/-- Fails unless a condition holds. -/
def require (b : Bool) : Scan τ Unit :=
  if b then pure () else failure

/-- Entries with a separator between any two. -/
def separated {β : Type} (separator : Scan τ β) (p : Scan τ α) (bound : Nat) : Scan τ (List α) := do
  let x ← p
  let xs ← many (do
    let _ ← separator
    p) bound
  pure (x :: xs)

end Scan

end GoRebuild
