import ScopeGen.Json.Basic
import ScopeGen.Json.Draft

/-!
# Proofs/Json/Nesting — how deep a value is nested

`depth` counts the arrays and objects inside each other.  `Draft.prune n` cuts a draft at the level
`n`: texts and numbers stay as they are, what is nested deeper is not seen any more, and a draft
without faults has none afterwards (`isSound_prune`).
-/

namespace ScopeGen.Json

mutual

/-- How many arrays and objects are inside each other. -/
def depth : Json → Nat
  | .arr items => itemDepth items + 1
  | .obj entries => entryDepth entries + 1
  | _ => 0

/-- The depth of the deepest item. -/
def itemDepth : List Json → Nat
  | [] => 0
  | j :: rest => max (depth j) (itemDepth rest)

/-- The depth of the deepest entry; its key does not count. -/
def entryDepth : List (String × Json) → Nat
  | [] => 0
  | (_, j) :: rest => max (depth j) (entryDepth rest)

end

namespace Draft

variable {n : Nat}

/-- What is neither an array nor an object is seen at every level. -/
@[simp] theorem prune_null : prune n .null = .null := by
  cases n <;> rfl

@[simp] theorem prune_bool (b : Bool) : prune n (.bool b) = .bool b := by
  cases n <;> rfl

@[simp] theorem prune_int (m : Int) : prune n (.int m) = .int m := by
  cases n <;> rfl

/-- So is a text that cannot be read, which stays one. -/
@[simp] theorem prune_str (text : Option String) : prune n (.str text) = .str text := by
  cases n <;> rfl

/-- The recursion over the items is a test of each of them. -/
theorem areSound_eq_all (items : List Draft) : areSound items = items.all isSound := by
  induction items with
  | nil => rfl
  | cons d rest ih => rw [areSound, ih, List.all_cons]

/-- Entries are tested by their values: a key that cannot be read is found when it is asked for. -/
theorem areEntriesSound_eq_all (entries : List (Option String × Draft)) :
    areEntriesSound entries = entries.all fun entry => entry.2.isSound := by
  induction entries with
  | nil => rfl
  | cons entry rest ih => rw [areEntriesSound, ih, List.all_cons]

/-- **Cutting a draft off makes no fault.** -/
theorem isSound_prune {d : Draft} (h : d.isSound) : (d.prune n).isSound := by
  induction n generalizing d with
  | zero =>
    cases d with
    | arr items | obj entries => rwa [prune, isSound]
    | _ => exact h
  | succ n ih =>
    cases d with
    | arr items =>
      rw [isSound, areSound_eq_all, List.all_eq_true] at h
      rw [prune, isSound, areSound_eq_all, List.all_map, List.all_eq_true]
      exact fun d hd => ih (h d hd)
    | obj entries =>
      rw [isSound, areEntriesSound_eq_all, List.all_eq_true] at h
      rw [prune, isSound, areEntriesSound_eq_all, List.all_map, List.all_eq_true]
      exact fun entry hentry => ih (h entry hentry)
    | _ => exact h

end Draft

end ScopeGen.Json
