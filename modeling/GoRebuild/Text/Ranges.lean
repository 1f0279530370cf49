/-!
# Sets of characters given by ranges

* `Ranges` : a list of closed ranges of code points;
* `Ranges.has rs c` : `c` lies in one of them (`Ranges.has_iff`).
-/

namespace GoRebuild.Text

/-- Closed ranges of code points. -/
abbrev Ranges := List (Nat × Nat)

namespace Ranges

/-- Whether a character lies in one of the ranges. -/
def has (rs : Ranges) (c : Char) : Bool :=
  rs.any fun r => r.1 ≤ c.toNat && c.toNat ≤ r.2

theorem has_iff {rs : Ranges} {c : Char} :
    rs.has c = true ↔ ∃ r ∈ rs, r.1 ≤ c.toNat ∧ c.toNat ≤ r.2 := by
  simp [has]

end Ranges

end GoRebuild.Text
