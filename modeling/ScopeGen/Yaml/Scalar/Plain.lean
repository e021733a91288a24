import ScopeGen.Yaml.Scalar.Fold

/-!
# Yaml/Scalar/Plain — texts without quotes

A plain text ends where a key ends, before a comment, and at a line that is not indented enough;
inside brackets it also ends at an indicator of the collection.
-/

namespace ScopeGen.Yaml.Plain

/-- A word of a plain text.  Inside brackets a colon may not stand in front of an indicator. -/
def word? (flow : Bool) : List Char → Option (List Char)
  | [] => some []
  | c :: rest =>
    if isGap c || isBreak c then
      some []
    else if flow && c == ':' && (rest.head?.any (",?[]\x7b\x7d".toList.contains ·)) then
      none
    else if c == ':' && atWordEnd rest || flow && ",[]\x7b\x7d".toList.contains c then
      some []
    else
      (word? flow rest).map (c :: ·)

theorem length_of_word? {flow : Bool} {cs word : List Char} (h : word? flow cs = some word) :
    word.length ≤ cs.length := by
  induction cs generalizing word with
  | nil => simp_all [word?]
  | cons c rest ih =>
    unfold word? at h
    split at h
    · simp_all
    split at h
    · simp at h
    split at h
    · simp_all
    obtain ⟨w, hw, rfl⟩ := Option.map_eq_some_iff.1 h
    exact Nat.succ_le_succ (ih hw)

/-- The text that stands next and whether it ends after a break.  The characters of the gap before
are `gap`, and `broken` says that a break is among what has been left out. -/
def scan? (flow : Bool) (indent : Nat) (gap : List Char) (broken : Bool) (c : Cursor) :
    Option (List Char × Bool × Cursor) :=
  if c.atDocumentMark || c.rest.head? == some '#' then
    some ([], broken, c)
  else
    match _ : word? flow c.rest with
    | none => none
    | some [] => some ([], broken, c)
    | some (x :: word) =>
      match _ : (c.skip (word.length + 1)).gap? indent with
      | none => none
      | some (next, c') =>
        let broken := !next.breaks.isEmpty
        if next.spaces.isEmpty && !broken || !flow && c'.column < indent then
          some (gap ++ x :: word, broken, c')
        else
          (scan? flow indent next.fold broken c').map fun (text, broken, c') =>
            (gap ++ x :: word ++ text, broken, c')
termination_by c.rest.length
decreasing_by
  have := length_of_word? ‹_›
  have := Cursor.length_of_gap? ‹_›
  simp [Cursor.skip] at *
  omega

end ScopeGen.Yaml.Plain
