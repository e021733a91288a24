import ScopeGen.Annot
import Mathlib.Logic.Function.Basic

/-!
# Proofs/Marker/Naming — a marker is the name it is matched by

A marker and a scope are matched by two functions that cut `Init` off from opposite sides.  Both of
them compare nothing but names: `canonicalName?` is the name a marker stands for, and
`isMemberOf_iff` and `isInitializerOf_iff` say that a match is an equality of names.  Classification
keeps the name (`canonicalName?_ofName`), so a classified name matches exactly the scopes whose
marker it is, and it is no marker only when no scope has it (`ofName_eq_other_iff`).
-/

namespace ScopeGen

/-! ## Marker names determine their scopes -/

namespace Scope

theorem name_injective : Function.Injective name := fun _ _ h => Scope.ext h

/-- A member marker tells its scope, since what stands around the name is fixed. -/
theorem memberMarker_injective : Function.Injective memberMarker := fun s t h => by
  have hname : "@" ++ s.name = "@" ++ t.name := String.append_left_inj _ |>.mp h
  exact name_injective (String.append_right_inj _ |>.mp hname)

/-- **An initializer marker is a member marker of the scope that has `Init` in front.** -/
theorem initializerMarker_eq_memberMarker_iff {s t : Scope} :
    s.initializerMarker = t.memberMarker ↔ t.name = initPrefix ++ s.name := by
  rw [initializerMarker, memberMarker, String.append_left_inj, String.append_assoc,
    String.append_right_inj, eq_comm]

theorem initializerMarker_injective : Function.Injective initializerMarker := fun s t h => by
  have hname : "@" ++ initPrefix ++ s.name = "@" ++ initPrefix ++ t.name :=
    String.append_left_inj _ |>.mp h
  exact name_injective (String.append_right_inj _ |>.mp hname)

end Scope

/-! ## Matching compares names -/

namespace Marker

/-- The name that a marker stands for; what is no marker has none. -/
def canonicalName? : Marker → Option String
  | .member scope => some scope.memberMarker
  | .initializer scope => some scope.initializerMarker
  | .other => none

/-- **A marker is the member marker of the scope whose member marker it is called.** -/
theorem isMemberOf_iff {marker : Marker} {scope : Scope} :
    marker.isMemberOf scope ↔ marker.canonicalName? = some scope.memberMarker := by
  cases marker with
  | member s =>
    rw [isMemberOf, beq_iff_eq, canonicalName?, Option.some_inj,
      Scope.memberMarker_injective.eq_iff]
  | initializer s =>
    rw [isMemberOf, beq_iff_eq, cutPrefix?_eq_some_iff, canonicalName?, Option.some_inj,
      Scope.initializerMarker_eq_memberMarker_iff]
  | other => simp [isMemberOf, canonicalName?]

/-- Likewise it is the initializer marker of the scope whose initializer marker it is called. -/
theorem isInitializerOf_iff {marker : Marker} {scope : Scope} :
    marker.isInitializerOf scope ↔ marker.canonicalName? = some scope.initializerMarker := by
  cases marker with
  | member s =>
    rw [isInitializerOf, beq_iff_eq, cutPrefix?_eq_some_iff, canonicalName?, Option.some_inj,
      ← Scope.initializerMarker_eq_memberMarker_iff, eq_comm]
  | initializer s =>
    rw [isInitializerOf, beq_iff_eq, canonicalName?, Option.some_inj,
      Scope.initializerMarker_injective.eq_iff]
  | other => simp [isInitializerOf, canonicalName?]

/-! ## Classification keeps the name -/

/-- Taking the `@` and the suffix off undoes putting them on. -/
theorem inner?_eq_some_iff {name inner : String} :
    inner? name = some inner ↔ name = "@" ++ inner ++ scopeSuffix := by
  simp only [inner?, Option.bind_eq_bind, Option.bind_eq_some_iff, cutPrefix?_eq_some_iff,
    cutSuffix?_eq_some_iff]
  constructor
  · rintro ⟨rest, rfl, rfl⟩
    exact (String.append_assoc ..).symm
  · rintro rfl
    exact ⟨inner ++ scopeSuffix, String.append_assoc .., rfl⟩

/-- What is written as an initializer marker is read as one. -/
theorem initializer?_eq_some_iff {inner : String} {scope : Scope} :
    cutPrefix? initPrefix inner >>= scope? = some scope ↔ inner = initPrefix ++ scope.name := by
  simp only [Option.bind_eq_bind, Option.bind_eq_some_iff, cutPrefix?_eq_some_iff,
    scope?_eq_some_iff]
  exact ⟨fun ⟨_, h, hs⟩ => hs ▸ h, fun h => ⟨_, h, rfl⟩⟩

/-- **A name is read as what it is written as**, and as no marker only when it is no member
marker. -/
theorem ofName_cases (name : String) :
    (∃ scope, ofName name = .initializer scope ∧ name = scope.initializerMarker) ∨
      (∃ scope, ofName name = .member scope ∧ name = scope.memberMarker) ∨
      ofName name = .other ∧ ∀ scope : Scope, name ≠ scope.memberMarker := by
  unfold ofName
  split
  case h_1 hinner =>
    refine Or.inr (Or.inr ⟨rfl, fun scope hname => ?_⟩)
    exact absurd (hinner.symm.trans (inner?_eq_some_iff.mpr hname)) nofun
  case h_2 inner hinner =>
    have hname := inner?_eq_some_iff.mp hinner
    split
    case h_1 scope hscope =>
      obtain rfl := initializer?_eq_some_iff.mp hscope
      exact Or.inl ⟨scope, rfl, by rw [hname, Scope.initializerMarker, ← String.append_assoc]⟩
    case h_2 =>
      cases hscope : scope? inner with
      | none =>
        refine Or.inr (Or.inr ⟨rfl, fun scope hmarker => ?_⟩)
        obtain rfl : inner = scope.name :=
          Option.some.inj (hinner.symm.trans (inner?_eq_some_iff.mpr hmarker))
        exact absurd (hscope.symm.trans (scope?_eq_some_iff.mpr rfl)) nofun
      | some scope =>
        obtain rfl := scope?_eq_some_iff.mp hscope
        exact Or.inr (Or.inl ⟨scope, rfl, hname⟩)

/-- A name is read as an initializer marker exactly when it is written as one: this reading comes
first. -/
theorem ofName_eq_initializer_iff {name : String} {scope : Scope} :
    ofName name = .initializer scope ↔ name = scope.initializerMarker := by
  constructor
  · intro h
    obtain ⟨s, hs, hname⟩ | ⟨s, hs, -⟩ | ⟨hs, -⟩ := ofName_cases name
    · obtain rfl : s = scope := Marker.initializer.inj (hs.symm.trans h)
      exact hname
    · exact absurd (hs.symm.trans h) nofun
    · exact absurd (hs.symm.trans h) nofun
  · rintro rfl
    have hinner : inner? scope.initializerMarker = some (initPrefix ++ scope.name) :=
      inner?_eq_some_iff.mpr (by rw [Scope.initializerMarker, ← String.append_assoc])
    simp only [ofName, hinner, initializer?_eq_some_iff.mpr rfl]

/-- A name that is read as a member marker is written as one. -/
theorem eq_memberMarker_of_ofName {name : String} {scope : Scope}
    (h : ofName name = .member scope) : name = scope.memberMarker := by
  obtain ⟨s, hs, -⟩ | ⟨s, hs, hname⟩ | ⟨hs, -⟩ := ofName_cases name
  · exact absurd (hs.symm.trans h) nofun
  · obtain rfl : s = scope := Marker.member.inj (hs.symm.trans h)
    exact hname
  · exact absurd (hs.symm.trans h) nofun

/-- A member marker is read as a marker, of the one kind or of the other. -/
theorem ofName_memberMarker_ne_other (scope : Scope) : ofName scope.memberMarker ≠ .other := by
  intro h
  obtain ⟨s, hs, -⟩ | ⟨s, hs, -⟩ | ⟨-, hne⟩ := ofName_cases scope.memberMarker
  · exact absurd (hs.symm.trans h) nofun
  · exact absurd (hs.symm.trans h) nofun
  · exact hne scope rfl

/-- **A name is no marker exactly when no scope has it for a marker.** -/
theorem ofName_eq_other_iff {name : String} :
    ofName name = .other ↔
      ∀ scope : Scope, name ≠ scope.memberMarker ∧ name ≠ scope.initializerMarker := by
  constructor
  · refine fun h scope => ⟨?_, ?_⟩
    · rintro rfl
      exact ofName_memberMarker_ne_other scope h
    · rintro rfl
      exact absurd (h.symm.trans (ofName_eq_initializer_iff.mpr rfl)) nofun
  · intro h
    obtain ⟨s, -, hname⟩ | ⟨s, -, hname⟩ | ⟨hs, -⟩ := ofName_cases name
    · exact absurd hname (h s).2
    · exact absurd hname (h s).1
    · exact hs

/-- **Classification keeps the name**: a marker read from a name is called by that name. -/
theorem canonicalName?_ofName {name other : String} :
    (ofName name).canonicalName? = some other ↔ ofName name ≠ .other ∧ name = other := by
  cases hname : ofName name with
  | other => simp [canonicalName?]
  | member scope => simp [canonicalName?, eq_memberMarker_of_ofName hname]
  | initializer scope => simp [canonicalName?, ofName_eq_initializer_iff.mp hname]

/-- **A name matches as a member the scope whose member marker it is**, and no other. -/
theorem isMemberOf_ofName_iff {name : String} {scope : Scope} :
    (ofName name).isMemberOf scope ↔ name = scope.memberMarker := by
  rw [isMemberOf_iff, canonicalName?_ofName, and_iff_right_iff_imp]
  rintro rfl
  exact ofName_memberMarker_ne_other scope

/-- Likewise it matches as an initializer the scope whose initializer marker it is. -/
theorem isInitializerOf_ofName_iff {name : String} {scope : Scope} :
    (ofName name).isInitializerOf scope ↔ name = scope.initializerMarker := by
  rw [isInitializerOf_iff, canonicalName?_ofName, and_iff_right_iff_imp]
  rintro rfl
  simp [ofName_eq_initializer_iff.mpr rfl]

end Marker

/-! ## Annotations are classified by what follows the last dot -/

namespace Annot

theorem isMemberOf_ofName_iff {name : String} {scope : Scope} :
    (ofName name).marker.isMemberOf scope ↔ afterLast '.' name = scope.name ++ scopeSuffix := by
  rw [ofName, Marker.isMemberOf_ofName_iff, Scope.memberMarker, String.append_assoc,
    String.append_right_inj]

theorem isInitializerOf_ofName_iff {name : String} {scope : Scope} :
    (ofName name).marker.isInitializerOf scope ↔
      afterLast '.' name = initPrefix ++ scope.name ++ scopeSuffix := by
  rw [ofName, Marker.isInitializerOf_ofName_iff, Scope.initializerMarker, String.append_assoc,
    String.append_assoc, String.append_right_inj, String.append_assoc]

end Annot

/-- **A name is classified as the markers it is, and an annotation by its simple name.**  The simple
name is what follows the last dot; classification and the two matching functions agree with plain
equality of names, whichever of the two readings of an `Init` is stored. -/
theorem markers_of_name (name : String) :
    (∀ scope : Scope, (Marker.ofName name).isMemberOf scope ↔ name = scope.memberMarker) ∧
    (∀ scope : Scope, (Marker.ofName name).isInitializerOf scope ↔ name = scope.initializerMarker) ∧
    (Marker.ofName name = .other ↔
      ∀ scope : Scope, name ≠ scope.memberMarker ∧ name ≠ scope.initializerMarker) ∧
    ∃ simple : String, '.' ∉ simple.toList ∧
      (name = simple ∨ ∃ front, name = front ++ "." ++ simple) ∧
      (∀ scope : Scope,
        (Annot.ofName name).marker.isMemberOf scope ↔ simple = scope.name ++ "Scope") ∧
      ∀ scope : Scope, (Annot.ofName name).marker.isInitializerOf scope ↔
        simple = "Init" ++ scope.name ++ "Scope" :=
  ⟨fun _ => Marker.isMemberOf_ofName_iff, fun _ => Marker.isInitializerOf_ofName_iff,
    Marker.ofName_eq_other_iff, afterLast '.' name, not_mem_afterLast '.' name,
    eq_afterLast_or_append '.' name, fun _ => Annot.isMemberOf_ofName_iff,
    fun _ => Annot.isInitializerOf_ofName_iff⟩

end ScopeGen
