import Mathlib.Data.Set.Function
import ScopeGen.Scope

/-!
# Proofs/Scope/ClassName — when two generated classes have one name

    A · Scope · BScopeC  =  AScopeBScopeC  =  AScopeB · Scope · C

A generated class is named by its class and its scope, with `Scope` between them.  Either may hold
this word itself, so a name does not tell the two apart.  It does up to the choice of one occurrence
of the word (`append_word_eq_iff`): occurrences cannot overlap, since the first letter of the word
stands in it only once (`eq_nil_of_overlap`).
-/

namespace ScopeGen

/-! ## Words that do not overlap -/

section Words

variable {α : Type} {c : α} {tail : List α}

/-- **A word does not overlap itself when its first letter stands in it only once**: of its
occurrences in a text, one that starts within the word starts at its beginning. -/
theorem eq_nil_of_overlap (hc : c ∉ tail) {d e u v : List α} (hword : c :: tail = d ++ e)
    (htext : c :: tail ++ u = e ++ v) : d = [] ∨ e = [] := by
  cases d with
  | nil => exact Or.inl rfl
  | cons x d =>
    refine Or.inr ?_
    cases e with
    | nil => rfl
    | cons y e =>
      obtain ⟨rfl, -⟩ := List.cons_eq_cons.mp htext
      obtain ⟨-, rfl⟩ := List.cons_eq_cons.mp hword
      exact absurd (List.mem_append_right d List.mem_cons_self) hc

/-- In a text that begins with such a word, another occurrence is the same or is behind the
first. -/
theorem append_word_eq_word_append_iff (hc : c ∉ tail) {d u v : List α} :
    d ++ (c :: tail ++ u) = c :: tail ++ v ↔
      d = [] ∧ u = v ∨ ∃ between, d = c :: tail ++ between ∧ v = between ++ (c :: tail ++ u) := by
  constructor
  · intro h
    rcases List.append_eq_append_iff.mp h with ⟨e, hword, htext⟩ | ⟨between, hd, hv⟩
    · rcases eq_nil_of_overlap hc hword htext with rfl | rfl
      · exact Or.inl ⟨rfl, List.append_cancel_left h⟩
      · rw [List.append_nil] at hword
        subst hword
        exact Or.inr ⟨[], (List.append_nil _).symm, htext.symm⟩
    · exact Or.inr ⟨between, hd, hv⟩
  · rintro (⟨rfl, rfl⟩ | ⟨between, rfl, rfl⟩)
    · rfl
    · simp only [List.append_assoc]

/-- **Joining by such a word forgets only which occurrence of it joins.** -/
theorem append_word_eq_iff (hc : c ∉ tail) {a b u v : List α} :
    a ++ (c :: tail ++ u) = b ++ (c :: tail ++ v) ↔ (a = b ∧ u = v) ∨
      (∃ between, v = between ++ (c :: tail ++ u) ∧ a = b ++ (c :: tail ++ between)) ∨
      ∃ between, u = between ++ (c :: tail ++ v) ∧ b = a ++ (c :: tail ++ between) := by
  constructor
  · intro h
    rcases List.append_eq_append_iff.mp h with ⟨d, rfl, htext⟩ | ⟨d, rfl, htext⟩
    · rcases (append_word_eq_word_append_iff hc).mp htext.symm with ⟨rfl, rfl⟩ | ⟨between, rfl, rfl⟩
      · exact Or.inl ⟨(List.append_nil a).symm, rfl⟩
      · exact Or.inr (Or.inr ⟨between, rfl, rfl⟩)
    · rcases (append_word_eq_word_append_iff hc).mp htext.symm with ⟨rfl, rfl⟩ | ⟨between, rfl, rfl⟩
      · exact Or.inl ⟨List.append_nil b, rfl⟩
      · exact Or.inr (Or.inl ⟨between, rfl, rfl⟩)
  · rintro (⟨rfl, rfl⟩ | ⟨between, rfl, rfl⟩ | ⟨between, rfl, rfl⟩)
    · rfl
    · simp only [List.append_assoc]
    · simp only [List.append_assoc]

end Words

/-! ## Names of generated classes -/

namespace Scope

theorem toList_append_scopeSuffix (front back : String) :
    (front ++ scopeSuffix ++ back).toList =
      front.toList ++ ('S' :: "cope".toList ++ back.toList) := by
  rw [String.toList_append, String.toList_append, List.append_assoc]
  rfl

/-- Texts joined by `Scope` are equal when they are equal each, or when what the one front has more
is at the beginning of the other back. -/
theorem append_scopeSuffix_eq_iff {front back front' back' : String} :
    front ++ scopeSuffix ++ back = front' ++ scopeSuffix ++ back' ↔
      (front = front' ∧ back = back') ∨
      (∃ between, back' = between ++ scopeSuffix ++ back ∧
        front = front' ++ scopeSuffix ++ between) ∨
      ∃ between, back = between ++ scopeSuffix ++ back' ∧
        front' = front ++ scopeSuffix ++ between := by
  have hletter : 'S' ∉ "cope".toList := by decide
  have hsurj : Function.Surjective String.toList := fun cs =>
    ⟨String.ofList cs, String.toList_ofList⟩
  simp only [← String.toList_inj, toList_append_scopeSuffix, append_word_eq_iff hletter,
    hsurj.exists]

/-- For one class the scope gives the name. -/
theorem classNameFor_injective (className : String) :
    Function.Injective (Scope.classNameFor · className) := fun _ _ h =>
  Scope.ext (String.append_right_inj _ |>.mp h)

/-- **When two generated classes have one name**: they are of one class for one scope, or what the
name of one class has more than that of the other is at the beginning of the other scope. -/
theorem classNameFor_eq_iff {scope scope' : Scope} {className className' : String} :
    scope.classNameFor className = scope'.classNameFor className' ↔
      (className = className' ∧ scope = scope') ∨
      (∃ between, scope'.name = between ++ scopeSuffix ++ scope.name ∧
        className = className' ++ scopeSuffix ++ between) ∨
      ∃ between, scope.name = between ++ scopeSuffix ++ scope'.name ∧
        className' = className ++ scopeSuffix ++ between := by
  rw [Scope.ext_iff]
  exact append_scopeSuffix_eq_iff

/-- **Generated classes have one name in one way only besides being the same**: some text with
`Scope` around it is moved from the end of the class into the front of the scope.  So for one class
the name gives the scope, and it gives the class too as long as no scope holds `Scope`. -/
theorem classNameFor_collisions :
    (∀ (className className' : String) (scope scope' : Scope),
      scope.classNameFor className = scope'.classNameFor className' ↔
        (className, scope) = (className', scope') ∨
        (∃ between : String, scope'.name = between ++ "Scope" ++ scope.name ∧
          className = className' ++ "Scope" ++ between) ∨
        ∃ between : String, scope.name = between ++ "Scope" ++ scope'.name ∧
          className' = className ++ "Scope" ++ between) ∧
    (∀ className : String, Function.Injective (Scope.classNameFor · className)) ∧
    Set.InjOn (fun x : String × Scope => x.2.classNameFor x.1)
      {x | ¬∃ front back : String, x.2.name = front ++ "Scope" ++ back} := by
  refine ⟨fun className className' scope scope' => ?_, classNameFor_injective, ?_⟩
  · rw [Prod.mk.injEq]
    exact classNameFor_eq_iff
  · rintro ⟨className, scope⟩ hscope ⟨className', scope'⟩ hscope' h
    rcases classNameFor_eq_iff.mp h with ⟨rfl, rfl⟩ | ⟨between, hname, -⟩ | ⟨between, hname, -⟩
    · rfl
    · exact absurd ⟨between, scope.name, hname⟩ hscope'
    · exact absurd ⟨between, scope'.name, hname⟩ hscope

/-- The two classes that are called `AScopeBScopeC`. -/
example :
    classNameFor ⟨"BScopeC", by decide, List.all_eq_true.mp (by decide)⟩ "A" =
      classNameFor ⟨"C", by decide, List.all_eq_true.mp (by decide)⟩ "AScopeB" := by
  decide

end Scope

end ScopeGen
