/-!
Classes of characters as runs of code points. Each run is given by its first and its last code
point, and a table lists the runs in ascending order.
-/

namespace SyntaxServer.Text

/-- A class of characters: the first and the last code point of each of its runs. -/
abbrev Runs := List (Nat × Nat)

def Runs.holds (rs : Runs) (c : Char) : Bool := rs.any fun r => r.1 ≤ c.toNat && c.toNat ≤ r.2

theorem Runs.holds_iff {rs : Runs} {c : Char} :
    rs.holds c = true ↔ ∃ r ∈ rs, r.1 ≤ c.toNat ∧ c.toNat ≤ r.2 := by
  simp [Runs.holds]

end SyntaxServer.Text
