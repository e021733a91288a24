import ScopeGen.Proofs.Json.Nesting

/-!
# Proofs/Json/Hole — what stays around a part of a value

    {"name":"m","value":{"Type":▢}}

A value with a **hole** is a path down to one of its parts, with everything beside that path.  What
is put into the hole changes neither the text around it (`Hole.exists_render_fill`) nor, unless it
is nested deeper itself, how deep the whole value is (`Hole.depth_fill`).
-/

namespace ScopeGen.Json

/-- A value with a hole in one place. -/
inductive Hole where
  | here
  | item (before : List Json) (hole : Hole) (after : List Json)
  | entry (before : List (String × Json)) (key : String) (hole : Hole)
      (after : List (String × Json))

namespace Hole

/-- The value with `j` in the hole. -/
def fill : Hole → Json → Json
  | here, j => j
  | item before hole after, j => .arr (before ++ hole.fill j :: after)
  | entry before key hole after, j => .obj (before ++ (key, hole.fill j) :: after)

/-! ## Depth -/

/-- The depth of a list is decided by what comes before, at and behind one of its items. -/
theorem itemDepth_middle (before : List Json) (j : Json) (after : List Json) :
    itemDepth (before ++ j :: after) = max (itemDepth before) (max j.depth (itemDepth after)) := by
  induction before with
  | nil => exact (Nat.zero_max _).symm
  | cons other before ih => rw [List.cons_append, itemDepth, itemDepth, ih, Nat.max_assoc]

theorem entryDepth_middle (before : List (String × Json)) (key : String) (j : Json)
    (after : List (String × Json)) :
    entryDepth (before ++ (key, j) :: after) =
      max (entryDepth before) (max j.depth (entryDepth after)) := by
  induction before with
  | nil => exact (Nat.zero_max _).symm
  | cons other before ih =>
    obtain ⟨key', other⟩ := other
    rw [List.cons_append, entryDepth, entryDepth, ih, Nat.max_assoc]

/-- Of what is in the hole only the depth counts for the depth of the value. -/
theorem depth_fill (hole : Hole) {i j : Json} (h : i.depth = j.depth) :
    (hole.fill i).depth = (hole.fill j).depth := by
  induction hole with
  | here => exact h
  | item before hole after ih =>
    rw [fill, fill, depth, depth, itemDepth_middle, itemDepth_middle, ih]
  | entry before key hole after ih =>
    rw [fill, fill, depth, depth, entryDepth_middle, entryDepth_middle, ih]

/-! ## Text -/

/-- Around an item stand the items before and behind it, with a comma on each side that has any. -/
theorem exists_itemChars_middle (before after : List Json) :
    ∃ left right : List Char, ∀ j : Json,
      itemChars (before ++ j :: after) = left ++ j.chars ++ right := by
  induction before with
  | nil =>
    cases after with
    | nil => exact ⟨[], [], fun j => (List.append_nil _).symm⟩
    | cons next after => exact ⟨[], ',' :: itemChars (next :: after), fun j => rfl⟩
  | cons first before ih =>
    obtain ⟨left, right, h⟩ := ih
    refine ⟨first.chars ++ ',' :: left, right, fun j => ?_⟩
    have hcons : itemChars (first :: (before ++ j :: after)) =
        first.chars ++ ',' :: itemChars (before ++ j :: after) := by
      cases before <;> rfl
    rw [List.cons_append, hcons, h]
    simp only [List.append_assoc, List.cons_append]

/-- Around the value of an entry stand its key too and a colon. -/
theorem exists_entryChars_middle (before : List (String × Json)) (key : String)
    (after : List (String × Json)) :
    ∃ left right : List Char, ∀ j : Json,
      entryChars (before ++ (key, j) :: after) = left ++ j.chars ++ right := by
  induction before with
  | nil =>
    cases after with
    | nil =>
      refine ⟨quote key ++ [':'], [], fun j => ?_⟩
      simp only [List.nil_append, entryChars, List.append_assoc, List.append_nil,
        List.singleton_append]
    | cons next after =>
      refine ⟨quote key ++ [':'], ',' :: entryChars (next :: after), fun j => ?_⟩
      simp only [List.nil_append, entryChars, List.append_assoc, List.cons_append]
  | cons first before ih =>
    obtain ⟨first, i⟩ := first
    obtain ⟨left, right, h⟩ := ih
    refine ⟨quote first ++ ':' :: i.chars ++ ',' :: left, right, fun j => ?_⟩
    have hcons : entryChars ((first, i) :: (before ++ (key, j) :: after)) =
        quote first ++ ':' :: i.chars ++ ',' :: entryChars (before ++ (key, j) :: after) := by
      cases before <;> rfl
    rw [List.cons_append, hcons, h]
    simp only [List.append_assoc, List.cons_append]

/-- By induction on the path: each step puts an array or an object around the text. -/
theorem exists_chars_fill (hole : Hole) :
    ∃ before after : List Char, ∀ j : Json, (hole.fill j).chars = before ++ j.chars ++ after := by
  induction hole with
  | here => exact ⟨[], [], fun j => (List.append_nil _).symm⟩
  | item before hole after ih =>
    obtain ⟨left, right, h⟩ := ih
    obtain ⟨left', right', hitems⟩ := exists_itemChars_middle before after
    refine ⟨'[' :: (left' ++ left), right ++ right' ++ [']'], fun j => ?_⟩
    rw [fill, chars, hitems, h]
    simp only [List.append_assoc, List.cons_append]
  | entry before key hole after ih =>
    obtain ⟨left, right, h⟩ := ih
    obtain ⟨left', right', hentries⟩ := exists_entryChars_middle before key after
    refine ⟨'\x7b' :: (left' ++ left), right ++ right' ++ ['\x7d'], fun j => ?_⟩
    rw [fill, chars, hentries, h]
    simp only [List.append_assoc, List.cons_append]

/-- **The text around the hole stays.** -/
theorem exists_render_fill (hole : Hole) :
    ∃ before after : String, ∀ j : Json, render (hole.fill j) = before ++ render j ++ after := by
  obtain ⟨before, after, h⟩ := exists_chars_fill hole
  refine ⟨String.ofList before, String.ofList after, fun j => ?_⟩
  rw [render, h, render, String.ofList_append, String.ofList_append]

end Hole

end ScopeGen.Json
