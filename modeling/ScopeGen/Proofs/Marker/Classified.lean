import ScopeGen.ClassDecl
import ScopeGen.Proofs.Marker.Canonical

/-!
# Proofs/Marker/Classified — asking for a marker by its form

    @InitFooScope ──ofName──▸ Initializer(Foo)      never Member(InitFoo)

Of the two forms that a marker with `Init` in front can be stored in, classification makes only one
(`Marker.classified_iff`).  So as long as all markers come from names, a method may also be asked
for a marker by its form: `isInitializerOf` and `isMemberOf` then say the same as `hasMarker` of the
form that the marker of the scope is classified as (`Method.hasMarker_of_classified`).
-/

namespace ScopeGen

/-- What follows `Init` in the name of a scope is the name of a scope, unless nothing does. -/
theorem Scope.exists_withInit_eq {scope : Scope} {rest : String} (hrest : rest ≠ "")
    (hname : scope.name = initPrefix ++ rest) :
    ∃ inner : Scope, inner.name = rest ∧ inner.withInit = scope := by
  have hchars : ∀ c ∈ rest.toList, isScopeChar c := fun c hc => by
    refine scope.valid.2 c ?_
    rw [hname, String.toList_append]
    exact List.mem_append_right _ hc
  exact ⟨⟨rest, hrest, hchars⟩, rfl, Scope.ext hname.symm⟩

namespace Marker

/-! ## What classification makes -/

/-- The marker is read from some name. -/
def Classified (marker : Marker) : Prop := ∃ name, ofName name = marker

/-- **The member marker of a scope with `Init` in front is read as an initializer**, that of any
other scope as what it is. -/
theorem ofName_memberMarker_withInit (inner : Scope) :
    ofName inner.withInit.memberMarker = .initializer inner := by
  rw [Scope.memberMarker_withInit]
  exact ofName_eq_initializer_iff.mpr rfl

/-- Other member markers are read as what they are. -/
theorem ofName_memberMarker {scope : Scope} (h : ∀ inner : Scope, inner.withInit ≠ scope) :
    ofName scope.memberMarker = .member scope := by
  obtain ⟨s, -, hname⟩ | ⟨s, hs, hname⟩ | ⟨-, hne⟩ := ofName_cases scope.memberMarker
  · rw [← Scope.memberMarker_withInit] at hname
    exact absurd (Scope.memberMarker_injective hname).symm (h s)
  · rw [hs, Scope.memberMarker_injective hname]
  · exact absurd rfl (hne scope)

/-- **All markers are read from names**, but for those stored as members of a scope with `Init` in
front. -/
theorem classified_iff {marker : Marker} :
    marker.Classified ↔ ∀ inner : Scope, marker ≠ .member inner.withInit := by
  constructor
  · rintro ⟨name, rfl⟩ inner hmember
    have hname := eq_memberMarker_of_ofName hmember
    rw [hname, ofName_memberMarker_withInit] at hmember
    exact absurd hmember nofun
  · intro h
    cases marker with
    | member scope =>
      exact ⟨scope.memberMarker, ofName_memberMarker fun inner heq => h inner (heq ▸ rfl)⟩
    | initializer scope => exact ⟨scope.initializerMarker, ofName_eq_initializer_iff.mpr rfl⟩
    | other => exact ⟨"", rfl⟩

/-! ## Matching compares forms -/

variable {marker : Marker}

/-- A marker that is read from a name has one form per name, so matching compares forms. -/
theorem Classified.isInitializerOf_iff (h : marker.Classified) (scope : Scope) :
    marker.isInitializerOf scope ↔ marker = .initializer scope := by
  obtain ⟨name, rfl⟩ := h
  rw [isInitializerOf_ofName_iff, ofName_eq_initializer_iff]

theorem Classified.isMemberOf_iff (h : marker.Classified) (scope : Scope) :
    marker.isMemberOf scope ↔ marker = ofName scope.memberMarker := by
  obtain ⟨name, rfl⟩ := h
  rw [isMemberOf_ofName_iff]
  constructor
  · exact congrArg ofName
  · intro heq
    have hmember := isMemberOf_ofName_iff.mpr (rfl : scope.memberMarker = _)
    rw [← heq] at hmember
    exact isMemberOf_ofName_iff.mp hmember

end Marker

/-- Annotations are made with the marker of their name. -/
theorem Annot.classified_ofName (name : String) : (Annot.ofName name).marker.Classified := by
  refine ⟨"@" ++ afterLast '.' name, ?_⟩
  rw [Annot.ofName]

/-- Members may be added to them without changing it. -/
theorem Annot.marker_withMember (a : Annot) (name : String) (value : Value) :
    (a.withMember name value).marker = a.marker := rfl

namespace Method

/-- What holds of each marker on a method holds of the method. -/
theorem any_annotations_iff {m : Method} {p q : Annot → Bool}
    (h : ∀ a ∈ m.annotations, (p a ↔ q a)) : m.annotations.any p ↔ m.annotations.any q := by
  rw [List.any_eq_true, List.any_eq_true]
  exact exists_congr fun a => and_congr_right fun ha => h a ha

/-- **Methods whose markers are read from names may be asked by form.**  Such a method is an
initializer of the scope exactly when it has the initializer marker of the scope, and a member
exactly when it has the marker that the member marker of the scope is read as.  This is the member
marker itself, unless the scope is called `Init` with more behind it: then it is the initializer
marker of the rest, and no such method has the member marker. -/
theorem hasMarker_of_classified (m : Method) (hm : ∀ a ∈ m.annotations, a.marker.Classified)
    (scope : Scope) :
    (m.isInitializerOf scope ↔ m.hasMarker (.initializer scope)) ∧
    (m.isMemberOf scope ↔ m.hasMarker (Marker.ofName scope.memberMarker)) ∧
    (∀ rest : String, rest ≠ "" → scope.name = "Init" ++ rest →
      ∃ inner : Scope, inner.name = rest ∧
        Marker.ofName scope.memberMarker = .initializer inner ∧
        m.hasMarker (.member scope) = false) ∧
    ((∀ rest : String, rest ≠ "" → scope.name ≠ "Init" ++ rest) →
      Marker.ofName scope.memberMarker = .member scope) := by
  refine ⟨any_annotations_iff fun a ha => ?_, any_annotations_iff fun a ha => ?_,
    fun rest hrest hname => ?_, fun h => ?_⟩
  · rw [(hm a ha).isInitializerOf_iff, beq_iff_eq]
  · rw [(hm a ha).isMemberOf_iff, beq_iff_eq]
  · obtain ⟨inner, hinner, rfl⟩ := Scope.exists_withInit_eq hrest hname
    refine ⟨inner, hinner, Marker.ofName_memberMarker_withInit inner, ?_⟩
    rw [hasMarker, List.any_eq_false]
    intro a ha
    rw [beq_iff_eq]
    exact Marker.classified_iff.mp (hm a ha) inner
  · refine Marker.ofName_memberMarker fun inner heq => ?_
    exact h inner.name inner.valid.1 (heq ▸ rfl)

/-- A method that prepares a scope, whose marker is also that of a member of another scope. -/
def preparing : Method :=
  (⟨{ name := "prepare" }, []⟩ : Method)
    |>.withAnnot ((Annot.ofName "com.example.InitPageScope").withMember "order" (.integer 1))
    |>.withAnnot (Annot.ofName "Override")

/-- The scope that the method prepares. -/
def pageScope : Scope := ⟨"Page", by decide, List.all_eq_true.mp (by decide)⟩

/-- The method has the initializer marker of `Page`, and so is a member of `InitPage` without having
the member marker of that. -/
theorem hasMarker_preparing :
    (∀ a ∈ preparing.annotations, a.marker.Classified) ∧
    preparing.hasMarker (.initializer pageScope) ∧
    preparing.isMemberOf pageScope.withInit ∧
    preparing.hasMarker (.member pageScope.withInit) = false := by
  have hclassified : ∀ a ∈ preparing.annotations, a.marker.Classified := by
    simp only [preparing, withAnnot, List.nil_append, List.singleton_append, List.forall_mem_cons,
      Annot.marker_withMember]
    exact ⟨Annot.classified_ofName _, Annot.classified_ofName _, nofun⟩
  have hsimple : "@" ++ afterLast '.' "com.example.InitPageScope" =
      pageScope.initializerMarker := by decide
  have hread : (Annot.ofName "com.example.InitPageScope").marker = .initializer pageScope :=
    Marker.ofName_eq_initializer_iff.mpr hsimple
  have hmarker : preparing.hasMarker (.initializer pageScope) :=
    List.any_eq_true.mpr ⟨_, List.mem_cons_self, beq_iff_eq.mpr hread⟩
  obtain ⟨-, hmember, hinit, -⟩ := hasMarker_of_classified preparing hclassified pageScope.withInit
  obtain ⟨inner, hinner, hform, hnone⟩ := hinit "Page" (by decide) rfl
  obtain rfl : inner = pageScope := Scope.ext hinner
  exact ⟨hclassified, hmarker, hmember.mpr (hform ▸ hmarker), hnone⟩

end Method

end ScopeGen
