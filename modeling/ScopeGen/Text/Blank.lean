import ScopeGen.Text.Ranges

/-!
# Text/Blank — white space

The characters with the property White_Space, which a text may consist of and still count as empty.
-/

namespace ScopeGen

/-- The code points with the property White_Space. -/
def blankRanges : Ranges :=
  [(0x09, 0x0D), (0x20, 0x20), (0x85, 0x85), (0xA0, 0xA0), (0x1680, 0x1680), (0x2000, 0x200A),
   (0x2028, 0x2029), (0x202F, 0x202F), (0x205F, 0x205F), (0x3000, 0x3000)]

/-- A character is blank when it has the property White_Space. -/
def isBlank (c : Char) : Bool := blankRanges.has c

theorem blankRanges_ascending : blankRanges.Ascending := by decide

/-- Every character that core calls white space is blank. -/
theorem isBlank_of_isWhitespace {c : Char} (h : c.isWhitespace) : isBlank c := by
  simp only [Char.isWhitespace, Bool.or_eq_true, decide_eq_true_eq] at h
  rcases h with ((h | h) | h) | h <;> subst h <;> decide

/-- A text is blank when all its characters are, in particular when it is empty. -/
def isBlankText (text : String) : Bool := text.toList.all isBlank

end ScopeGen
