import ScopeGen.Yaml.Cursor

/-!
# Yaml/Scalar/Fold — breaks inside a text

Where a plain or a quoted text goes on in another line, the break becomes a space, unless lines are
left empty between: then one break is kept for each of them.
-/

namespace ScopeGen.Yaml

/-- What separates two words of a text: spaces, and breaks with the spaces around them left out. -/
structure Gap where
  spaces : List Char
  breaks : List Char

/-- The characters that a gap stands for. -/
def Gap.fold (gap : Gap) : List Char :=
  match gap.breaks with
  | [] => gap.spaces
  | ['\n'] => [' ']
  | '\n' :: more => more
  | breaks => breaks

namespace Cursor

/-- The breaks that stand next, with the spaces after each left out.  In the first `indent` columns
of a line there may be no tab. -/
def breaks? (indent : Nat) (c : Cursor) : Option (List Char × Cursor) :=
  match _ : c.break? with
  | none => some ([], c)
  | some (b, c') =>
    if ((c'.rest.takeWhile isGap).take indent).contains '\t' then
      none
    else
      (breaks? indent (c'.skipWhile isGap)).map fun (breaks, c) => (b :: breaks, c)
termination_by c.rest.length
decreasing_by
  have := length_of_break? ‹_›
  simp [skipWhile, skip]
  omega

/-- The gap that stands next. -/
def gap? (indent : Nat) (c : Cursor) : Option (Gap × Cursor) :=
  (breaks? indent (c.skipWhile isGap)).map fun (breaks, c') =>
    (⟨c.rest.takeWhile isGap, breaks⟩, c')

theorem length_of_breaks? {indent : Nat} {c c' : Cursor} {breaks : List Char}
    (h : c.breaks? indent = some (breaks, c')) : c'.rest.length ≤ c.rest.length := by
  fun_induction breaks? indent c generalizing breaks c' with
  | case1 => simp_all
  | case2 => simp at h
  | case3 c b next hb _ ih =>
    obtain ⟨⟨bs, d⟩, hd, h⟩ := Option.map_eq_some_iff.1 h
    have := ih hd
    have := length_of_break? hb
    simp [skipWhile, skip] at *
    obtain ⟨_, rfl⟩ := h
    omega

theorem length_of_gap? {indent : Nat} {c c' : Cursor} {gap : Gap}
    (h : c.gap? indent = some (gap, c')) : c'.rest.length ≤ c.rest.length := by
  obtain ⟨⟨bs, d⟩, hd, h⟩ := Option.map_eq_some_iff.1 h
  have := length_of_breaks? hd
  simp [skipWhile, skip] at *
  obtain ⟨_, rfl⟩ := h
  omega

end Cursor

end ScopeGen.Yaml
