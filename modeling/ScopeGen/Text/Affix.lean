/-!
# Text/Affix — taking texts apart

Cutting a known beginning or end off a text, taking what follows its last dot, and leaving out a
character.  `cutPrefix?_eq_some_iff` and `cutSuffix?_eq_some_iff` say that cutting undoes appending
and succeeds on nothing else.
-/

namespace ScopeGen

/-- What follows `start` in a text that begins with it. -/
def cutPrefix? (start text : String) : Option String :=
  (start.toList.isPrefixOf? text.toList).map String.ofList

/-- What precedes `ending` in a text that ends with it. -/
def cutSuffix? (ending text : String) : Option String :=
  (ending.toList.isSuffixOf? text.toList).map String.ofList

/-- What follows the last occurrence of `c`; the whole text when there is none. -/
def afterLast (c : Char) (text : String) : String :=
  String.ofList (text.toList.reverse.takeWhile (· != c)).reverse

/-- The text with every occurrence of `c` left out. -/
def without (c : Char) (text : String) : String :=
  String.ofList (text.toList.filter (· != c))

/-- Characters are cut off the front just when they stand there. -/
theorem isPrefixOf?_eq_some_iff_append {start text rest : List Char} :
    start.isPrefixOf? text = some rest ↔ text = start ++ rest := by
  induction start generalizing text with
  | nil => exact Option.some_inj
  | cons c start ih =>
    cases text with
    | nil => exact iff_of_false nofun nofun
    | cons d text =>
      have hstep : (c :: start).isPrefixOf? (d :: text) =
        if c == d then start.isPrefixOf? text else none := rfl
      rw [hstep]
      by_cases h : c = d <;> simp [h, ih, Ne.symm]

/-- **Cutting a beginning off undoes putting it in front**, and succeeds on nothing else. -/
theorem cutPrefix?_eq_some_iff {start text rest : String} :
    cutPrefix? start text = some rest ↔ text = start ++ rest := by
  simp only [cutPrefix?, Option.map_eq_some_iff, isPrefixOf?_eq_some_iff_append]
  constructor
  · rintro ⟨r, h, rfl⟩
    exact String.toList_inj.1 (by simp [h])
  · rintro rfl
    exact ⟨rest.toList, by simp, by simp⟩

/-- **Cutting an end off undoes putting it behind**: the same on both texts read backwards. -/
theorem cutSuffix?_eq_some_iff {ending text rest : String} :
    cutSuffix? ending text = some rest ↔ text = rest ++ ending := by
  have hsuffix : ending.toList.isSuffixOf? text.toList =
    (ending.toList.reverse.isPrefixOf? text.toList.reverse).map List.reverse := rfl
  simp only [cutSuffix?, hsuffix, Option.map_eq_some_iff, isPrefixOf?_eq_some_iff_append]
  constructor
  · rintro ⟨r, ⟨r', h, rfl⟩, rfl⟩
    exact String.toList_inj.1 (by simp [← List.reverse_inj, h])
  · rintro rfl
    exact ⟨rest.toList, ⟨rest.toList.reverse, by simp, by simp⟩, by simp⟩

@[simp] theorem cutPrefix?_append (start rest : String) :
    cutPrefix? start (start ++ rest) = some rest :=
  cutPrefix?_eq_some_iff.2 rfl

@[simp] theorem cutSuffix?_append (rest ending : String) :
    cutSuffix? ending (rest ++ ending) = some rest :=
  cutSuffix?_eq_some_iff.2 rfl

/-- Behind the last `c` there is no other. -/
theorem not_mem_afterLast (c : Char) (text : String) : c ∉ (afterLast c text).toList := by
  intro h
  rw [afterLast, String.toList_ofList, List.mem_reverse] at h
  exact absurd (List.all_eq_true.1 List.all_takeWhile c h) (by simp)

/-- What follows the last `c` ends the text: it is all of it or has a `c` right before it. -/
theorem eq_afterLast_or_append (c : Char) (text : String) :
    text = afterLast c text ∨ ∃ front, text = front ++ c.toString ++ afterLast c text := by
  have split := List.takeWhile_append_dropWhile (p := (· != c)) (l := text.toList.reverse)
  cases rest : text.toList.reverse.dropWhile (· != c) with
  | nil =>
    refine Or.inl (String.toList_inj.1 ?_)
    rw [rest, List.append_nil] at split
    rw [afterLast, String.toList_ofList, split, List.reverse_reverse]
  | cons d rest' =>
    have hd : d = c := by
      have head := List.head?_dropWhile_not (· != c) text.toList.reverse
      simpa [rest] using head
    refine Or.inr ⟨String.ofList rest'.reverse, String.toList_inj.1 ?_⟩
    rw [rest, hd] at split
    rw [← List.reverse_inj, ← split]
    simp [afterLast]

@[simp] theorem toList_without (c : Char) (text : String) :
    (without c text).toList = text.toList.filter (· != c) := by
  simp [without]

end ScopeGen
