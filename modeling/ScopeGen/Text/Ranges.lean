/-!
# Text/Ranges — sets of characters as closed ranges

A set of characters is a list of closed ranges of code points, ascending and apart.  `Ranges.has`
looks a character up; `Ranges.Ascending` is the shape every table of the library has.
-/

namespace ScopeGen

/-- A set of code points: closed ranges, lowest first. -/
abbrev Ranges := List (Nat × Nat)

namespace Ranges

/-- Whether the character lies in one of the ranges. -/
def has (ranges : Ranges) (c : Char) : Bool :=
  ranges.any fun r => r.1 ≤ c.toNat && c.toNat ≤ r.2

/-- The ranges are in order and no two of them touch. -/
def Ascending : Ranges → Prop
  | [] => True
  | [r] => r.1 ≤ r.2
  | r :: s :: rest => r.1 ≤ r.2 ∧ r.2 + 1 < s.1 ∧ Ascending (s :: rest)

instance decidableAscending : (ranges : Ranges) → Decidable ranges.Ascending
  | [] => isTrue trivial
  | [r] => inferInstanceAs (Decidable (r.1 ≤ r.2))
  | r :: s :: rest =>
    have := decidableAscending (s :: rest)
    inferInstanceAs (Decidable (r.1 ≤ r.2 ∧ r.2 + 1 < s.1 ∧ Ascending (s :: rest)))

/-- A character is in the set exactly when some range holds its code point. -/
theorem has_iff {ranges : Ranges} {c : Char} :
    ranges.has c ↔ ∃ r ∈ ranges, r.1 ≤ c.toNat ∧ c.toNat ≤ r.2 := by
  simp [has]

end Ranges

end ScopeGen
