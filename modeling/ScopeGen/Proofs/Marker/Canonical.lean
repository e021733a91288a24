import Mathlib.Data.Set.Subsingleton
import ScopeGen.Proofs.Marker.Naming

/-!
# Proofs/Marker/Canonical — markers with one name are one marker

    Member(InitFoo) ──▸ @InitFooScope ◂── Initializer(Foo)

A marker that is not read from a name may be stored in either of two forms.  Both stand for one
name, and no more than the name is seen of a marker: markers `Agree` on all scopes exactly when they
have the same name (`agree_iff`).  Every name of a marker is the member marker of some scope
(`exists_memberMarker_of_canonicalName?`), since `Init` may be read as the beginning of a scope
(`Scope.withInit`).
-/

namespace ScopeGen

/-! ## The scope with `Init` in front -/

theorem ValidScope.init {name : String} (h : ValidScope name) :
    ValidScope (initPrefix ++ name) := by
  obtain ⟨-, hchars⟩ := h
  refine ⟨?_, ?_⟩
  · intro hempty
    exact absurd (String.append_eq_empty_iff.mp hempty).1 (by decide)
  · intro c hc
    rw [String.toList_append, List.mem_append] at hc
    rcases hc with hc | hc
    · exact List.all_eq_true.mp (by decide) c hc
    · exact hchars c hc

/-- The scope with `Init` in front. -/
def Scope.withInit (scope : Scope) : Scope := ⟨initPrefix ++ scope.name, scope.valid.init⟩

/-- **What marks an initializer of the scope marks a member of the one with `Init` in front.** -/
theorem Scope.memberMarker_withInit (scope : Scope) :
    scope.withInit.memberMarker = scope.initializerMarker :=
  (initializerMarker_eq_memberMarker_iff.mpr rfl).symm

namespace Marker

variable {marker marker' : Marker} {scope scope' : Scope}

/-- **The two readings of a marker that starts with `Init` coincide**, in whichever form it is
stored. -/
theorem isMemberOf_withInit (marker : Marker) (scope : Scope) :
    marker.isMemberOf scope.withInit = marker.isInitializerOf scope := by
  rw [Bool.eq_iff_iff, isMemberOf_iff, isInitializerOf_iff, Scope.memberMarker_withInit]

/-! ## One name, one scope -/

/-- **A marker is the member marker of one scope only.** -/
theorem eq_of_isMemberOf (h : marker.isMemberOf scope) (h' : marker.isMemberOf scope') :
    scope = scope' :=
  Scope.memberMarker_injective
    (Option.some.inj ((isMemberOf_iff.mp h).symm.trans (isMemberOf_iff.mp h')))

theorem eq_of_isInitializerOf (h : marker.isInitializerOf scope)
    (h' : marker.isInitializerOf scope') : scope = scope' :=
  Scope.initializerMarker_injective
    (Option.some.inj ((isInitializerOf_iff.mp h).symm.trans (isInitializerOf_iff.mp h')))

/-- **A marker is not both the member and the initializer marker of a scope**: one of these names is
longer than the other. -/
theorem not_isMemberOf_and_isInitializerOf (marker : Marker) (scope : Scope) :
    (marker.isMemberOf scope && marker.isInitializerOf scope) = false := by
  refine Bool.eq_false_iff.mpr fun h => ?_
  obtain ⟨hmember, hinit⟩ := Bool.and_eq_true_iff.mp h
  have hname : scope.name = initPrefix ++ scope.name :=
    Scope.initializerMarker_eq_memberMarker_iff.mp
      (Option.some.inj ((isInitializerOf_iff.mp hinit).symm.trans (isMemberOf_iff.mp hmember)))
  have hlength := congrArg String.length hname
  rw [String.length_append] at hlength
  have hprefix : initPrefix.length = 4 := rfl
  omega

/-! ## Markers that agree -/

/-- The markers are member markers of the same scopes, and initializer markers of the same. -/
def Agree (marker marker' : Marker) : Prop :=
  ∀ scope : Scope, marker.isMemberOf scope = marker'.isMemberOf scope ∧
    marker.isInitializerOf scope = marker'.isInitializerOf scope

theorem canonicalName?_eq_none_iff : marker.canonicalName? = none ↔ marker = .other := by
  cases marker <;> simp [canonicalName?]

/-- Whatever a marker is called, some scope has this name for its member marker. -/
theorem exists_memberMarker_of_canonicalName? {name : String}
    (h : marker.canonicalName? = some name) : ∃ scope : Scope, name = scope.memberMarker := by
  cases marker with
  | member s => exact ⟨s, (Option.some.inj h).symm⟩
  | initializer s =>
    refine ⟨s.withInit, ?_⟩
    rw [Scope.memberMarker_withInit]
    exact (Option.some.inj h).symm
  | other => exact absurd h nofun

/-- The member readings alone give the name away. -/
theorem canonicalName?_of_forall_isMemberOf {name : String}
    (hmember : ∀ scope, marker.isMemberOf scope = marker'.isMemberOf scope)
    (h : marker.canonicalName? = some name) : marker'.canonicalName? = some name := by
  obtain ⟨scope, rfl⟩ := exists_memberMarker_of_canonicalName? h
  rw [← isMemberOf_iff, ← hmember scope]
  exact isMemberOf_iff.mpr h

/-- **Markers agree on all scopes exactly when they are called the same.** -/
theorem agree_iff : marker.Agree marker' ↔ marker.canonicalName? = marker'.canonicalName? := by
  constructor
  · intro h
    ext name
    exact ⟨canonicalName?_of_forall_isMemberOf fun scope => (h scope).1,
      canonicalName?_of_forall_isMemberOf fun scope => (h scope).1.symm⟩
  · intro h scope
    constructor
    · rw [Bool.eq_iff_iff, isMemberOf_iff, isMemberOf_iff, h]
    · rw [Bool.eq_iff_iff, isInitializerOf_iff, isInitializerOf_iff, h]

/-- **Classifying the name of a marker keeps the name.** -/
theorem canonicalName?_ofName_of_canonicalName? {name : String}
    (h : marker.canonicalName? = some name) : (ofName name).canonicalName? = some name := by
  obtain ⟨scope, rfl⟩ := exists_memberMarker_of_canonicalName? h
  exact canonicalName?_ofName.mpr ⟨ofName_memberMarker_ne_other scope, rfl⟩

/-- The name of one marker classifies as the name of another exactly when it is the same name. -/
theorem ofName_eq_ofName_iff {name name' : String} (h : marker.canonicalName? = some name)
    (h' : marker'.canonicalName? = some name') : ofName name = ofName name' ↔ name = name' := by
  constructor
  · intro heq
    have hname := canonicalName?_ofName_of_canonicalName? h
    rw [heq, canonicalName?_ofName_of_canonicalName? h'] at hname
    exact (Option.some.inj hname).symm
  · exact congrArg ofName

/-- **A marker is matched by its name and nothing else.**  It is the marker, in either role, of the
scope that has its name for that marker.  So markers agree on all scopes exactly when they are
called the same, or are both no markers.  In each role a marker is that of one scope at most, and
of no scope in both.  The name of a marker classifies as a marker that agrees with it, which is the
same for all markers that agree. -/
theorem matching_canonicalName (marker : Marker) :
    (∀ scope : Scope,
      (marker.isMemberOf scope ↔ marker.canonicalName? = some scope.memberMarker) ∧
      (marker.isInitializerOf scope ↔ marker.canonicalName? = some scope.initializerMarker)) ∧
    (∀ marker' : Marker, marker.Agree marker' ↔ marker.canonicalName? = marker'.canonicalName?) ∧
    {scope | marker.isMemberOf scope}.Subsingleton ∧
    {scope | marker.isInitializerOf scope}.Subsingleton ∧
    (∀ scope : Scope, ¬(marker.isMemberOf scope ∧ marker.isInitializerOf scope)) ∧
    (marker = .other ∨ ∃ name, marker.canonicalName? = some name ∧ (ofName name).Agree marker ∧
      ∀ marker' : Marker, marker.Agree marker' ↔
        ∃ name', marker'.canonicalName? = some name' ∧ ofName name' = ofName name) := by
  refine ⟨fun scope => ⟨isMemberOf_iff, isInitializerOf_iff⟩, fun marker' => agree_iff,
    fun s hs t ht => eq_of_isMemberOf hs ht, fun s hs t ht => eq_of_isInitializerOf hs ht,
    fun scope => ?_, ?_⟩
  · rw [← Bool.and_eq_true_iff, not_isMemberOf_and_isInitializerOf]
    exact Bool.false_ne_true
  · cases hname : marker.canonicalName? with
    | none => exact Or.inl (canonicalName?_eq_none_iff.mp hname)
    | some name =>
      refine Or.inr ⟨name, rfl, ?_, fun marker' => ?_⟩
      · rw [agree_iff, hname]
        exact canonicalName?_ofName_of_canonicalName? hname
      · rw [agree_iff, hname]
        constructor
        · intro h
          exact ⟨name, h.symm, rfl⟩
        · rintro ⟨name', hname', h⟩
          rw [hname', (ofName_eq_ofName_iff hname' hname).mp h]

end Marker

end ScopeGen
