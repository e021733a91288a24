/-!
# Text/Int64 — integers of 64 bits
-/

namespace ScopeGen

/-- The 64-bit integer with this value. -/
def int64? (n : Int) : Option Int64 :=
  if Int64.minValue.toInt ≤ n ∧ n ≤ Int64.maxValue.toInt then some (Int64.ofInt n) else none

/-- Every 64-bit integer has its own value. -/
theorem int64?_toInt (n : Int64) : int64? n.toInt = some n := by
  have := n.minValue_le_toInt
  have := n.toInt_le
  simp_all [int64?]

end ScopeGen
