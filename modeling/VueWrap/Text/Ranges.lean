/-! # Sets of characters given by intervals of code points -/

namespace VueWrap.Text

def within (intervals : List (Nat × Nat)) (c : Char) : Bool :=
  intervals.any fun r => r.1 ≤ c.toNat && c.toNat ≤ r.2

theorem within_iff {intervals : List (Nat × Nat)} {c : Char} :
    within intervals c = true ↔ ∃ r ∈ intervals, r.1 ≤ c.toNat ∧ c.toNat ≤ r.2 := by
  simp [within]

end VueWrap.Text
