import ScopeGen.Proofs.Emission.Overrides
import Mathlib.Data.List.Basic
import Mathlib.Order.Bounds.Basic

/-!
# Proofs/Emission/Correlation — the annotation a scope is given

A class-level annotation lists scopes and, beside them, annotations.  It **names** a scope at the
first position where the scope stands (`Annot.NamesAt`), and gives it the annotation at the same
position (`Annot.HoldsAt`).  Three traversals read this correlation: the copying of annotations,
what is told of it, and the list of declared scopes.  They agree on which annotations name a scope
and where (`position?_eq_some_iff`, `mem_declaredScopes_iff`).
-/

namespace ScopeGen

/-! ## Naming a scope -/

theorem Value.scopeText?_eq_some_iff {value : Value} {name : String} :
    value.scopeText? = some name ↔ ∃ text, value = .string text ∧ without '"' text = name := by
  cases value <;> simp [scopeText?]

theorem Value.annot?_eq_some_iff {value : Value} {nested : Annot} :
    value.annot? = some nested ↔ value = .annot nested := by
  cases value <;> simp [annot?]

/-- The items that have the name are texts. -/
theorem Value.scopeText?_getElem?_iff {items : List Value} {name : String} {i : Nat} :
    (∃ value, items[i]? = some value ∧ value.scopeText? = some name) ↔
      ∃ text, items[i]? = some (.string text) ∧ without '"' text = name := by
  constructor
  · rintro ⟨value, hvalue, htext⟩
    obtain ⟨text, rfl, hname⟩ := Value.scopeText?_eq_some_iff.mp htext
    exact ⟨text, hvalue, hname⟩
  · rintro ⟨text, hvalue, hname⟩
    exact ⟨_, hvalue, Value.scopeText?_eq_some_iff.mpr ⟨text, rfl, hname⟩⟩

/-- **The position that is found among items is the least at which they have the name.** -/
theorem Value.findIdx?_scopeText?_iff {items : List Value} {name : String} {position : Nat} :
    items.findIdx? (·.scopeText? == some name) = some position ↔
      IsLeast {i | ∃ text, items[i]? = some (.string text) ∧ without '"' text = name} position := by
  rw [List.findIdx?_eq_some_iff_getElem, IsLeast]
  simp only [← scopeText?_getElem?_iff, Set.mem_ofPred_eq, mem_lowerBounds, beq_iff_eq]
  constructor
  · rintro ⟨hlt, hname, hleast⟩
    refine ⟨⟨_, List.getElem?_eq_getElem hlt, hname⟩, ?_⟩
    rintro i ⟨value, hvalue, htext⟩
    obtain ⟨hi, rfl⟩ := List.getElem?_eq_some_iff.mp hvalue
    exact Nat.le_of_not_lt fun hlt => hleast i hlt htext
  · rintro ⟨⟨value, hvalue, hname⟩, hleast⟩
    obtain ⟨hlt, rfl⟩ := List.getElem?_eq_some_iff.mp hvalue
    refine ⟨hlt, hname, fun i hi htext => ?_⟩
    exact absurd hi (Nat.not_lt.mpr (hleast i ⟨_, List.getElem?_eq_getElem _, htext⟩))

/-- Looking for the first pair by its left side is looking for the position of that side, and for
what is made of the right side there. -/
theorem bind_find?_zip {α β γ : Type} (p : α → Bool) (f : β → Option γ) (as : List α)
    (bs : List β) :
    ((as.zip bs).find? (p ·.1)).bind (f ·.2) = (as.findIdx? p).bind fun i => bs[i]?.bind f := by
  induction as generalizing bs with
  | nil => simp
  | cons a as ih =>
    cases bs with
    | nil => simp
    | cons b bs =>
      have ih := ih bs
      cases h : p a with
      | true => simp [List.findIdx?_cons, h]
      | false => simp [List.findIdx?_cons, h, ih, Option.bind_map]

namespace Annot

/-- **The annotation names the scope at this position**: of its first `scopes`, there stands the
first that is a text and, with its quotes left out, the scope. -/
def NamesAt (a : Annot) (scope : Scope) (position : Nat) : Prop :=
  ∃ v, a.member? "scopes" = some v ∧
    IsLeast {i | ∃ text, v.items[i]? = some (.string text) ∧ without '"' text = scope.name} position

/-- The annotation has another one at this position of its first `values`. -/
def HoldsAt (a nested : Annot) (position : Nat) : Prop :=
  ∃ v, a.member? "values" = some v ∧ v.items[position]? = some (.annot nested)

/-- **The position that is found is the one the scope is named at.** -/
theorem position?_eq_some_iff {a : Annot} {scope : Scope} {position : Nat} :
    a.position? scope = some position ↔ a.NamesAt scope position := by
  rw [position?, scopeItems, NamesAt, ← scopesMember]
  cases a.member? scopesMember with
  | none => simp
  | some v => simpa using Value.findIdx?_scopeText?_iff

/-- **The annotation that is found at a position is the one that stands there.** -/
theorem annotAt?_eq_some_iff {a nested : Annot} {position : Nat} :
    a.annotAt? position = some nested ↔ a.HoldsAt nested position := by
  rw [annotAt?, valueItems, HoldsAt, ← valuesMember]
  cases a.member? valuesMember with
  | none => simp
  | some v => simp [Option.bind_eq_some_iff, Value.annot?_eq_some_iff]

/-- The annotation beside a scope, as the list of pairs gives it: the right side of the first pair
whose left side is the scope. -/
def paired? (a : Annot) (scope : Scope) : Option Annot := do
  let scopes ← a.member? "scopes"
  let values ← a.member? "values"
  let (_, beside) ← (scopes.items.zip values.items).find? (·.1.scopeText? == some scope.name)
  beside.annot?

/-- **Pairing the two lists and looking up a position give the same annotation.** -/
theorem paired?_eq (a : Annot) (scope : Scope) :
    a.paired? scope = (a.position? scope).bind a.annotAt? := by
  have hlookup : a.annotAt? = fun position => a.valueItems[position]?.bind Value.annot? := rfl
  rw [paired?, position?, hlookup, scopeItems, valueItems, ← scopesMember, ← valuesMember]
  cases a.member? scopesMember with
  | none => rfl
  | some scopes =>
    cases a.member? valuesMember with
    | none => simp
    | some values =>
      exact bind_find?_zip (·.scopeText? == some scope.name) Value.annot? scopes.items values.items

/-- **What is paired with the scope stands where the annotation names it.** -/
theorem paired?_eq_some_iff {a nested : Annot} {scope : Scope} :
    a.paired? scope = some nested ↔
      ∃ position, a.NamesAt scope position ∧ a.HoldsAt nested position := by
  simp only [paired?_eq, Option.bind_eq_some_iff, position?_eq_some_iff, annotAt?_eq_some_iff]

end Annot

/-! ## What is told of the correlation -/

/-- The event tells of an annotation on the class: that it is copied, or that it gives none. -/
def Event.tellsOfAnnot (e : Event) : Bool :=
  e.message == "Copying scope annotation" || e.level == .warn

/-- No other event reads or weighs like these two. -/
theorem Event.tellsOfAnnot_iff {e : Event} :
    e.tellsOfAnnot ↔ (∃ cls scope annot, e = .copying cls scope annot) ∨
      ∃ cls scope annot position, e = .unmatched cls scope annot position := by
  cases e <;> simp [tellsOfAnnot, message, level]

namespace ClassDecl

variable (cls : ClassDecl) (scope : Scope)

/-- What is told of an annotation on the class. -/
def annotEvent? (a : Annot) : Option Event :=
  (a.position? scope).map fun position =>
    match a.annotAt? position with
    | some nested => .copying cls.name scope nested.name
    | none => .unmatched cls.name scope a.name position

variable {cls scope}

/-- **An annotation that names the scope is told of**: as a copy of what stands beside the scope, or
with a warning when nothing does. -/
theorem annotEvent?_eq_some_iff {a : Annot} {e : Event} :
    cls.annotEvent? scope a = some e ↔
      ∃ position, a.NamesAt scope position ∧
        ((∃ nested, a.HoldsAt nested position ∧ e = .copying cls.name scope nested.name ∧
            (e.level, e.message, e.fields) = (.trace, "Copying scope annotation",
              [("class", .text cls.name), ("scope", .text scope.name),
                ("annotation", .text nested.name)])) ∨
          (∀ nested, ¬a.HoldsAt nested position) ∧
            e = .unmatched cls.name scope a.name position ∧
            (e.level, e.message, e.fields) =
              (.warn, "No annotation in `values` at the position of the scope, skipping",
                [("class", .text cls.name), ("scope", .text scope.name),
                  ("annotation", .text a.name), ("position", .count position)])) := by
  simp only [annotEvent?, Option.map_eq_some_iff, Annot.position?_eq_some_iff,
    ← Annot.annotAt?_eq_some_iff]
  refine exists_congr fun position => and_congr_right fun _ => ?_
  cases a.annotAt? position with
  | none =>
    constructor
    · rintro rfl
      exact .inr ⟨nofun, rfl, rfl⟩
    · rintro (⟨_, ⟨⟩, -⟩ | ⟨-, rfl, -⟩)
      rfl
  | some nested =>
    constructor
    · rintro rfl
      exact .inl ⟨nested, rfl, rfl, rfl⟩
    · rintro (⟨_, ⟨⟩, rfl, -⟩ | ⟨hnone, -⟩)
      · rfl
      · exact absurd rfl (hnone nested)

/-- The event that tells of a copy names the annotation that is copied. -/
theorem filter_annotEvent? (a : Annot) :
    (cls.annotEvent? scope a).filter (·.message == "Copying scope annotation") =
      (a.paired? scope).map (.copying cls.name scope ·.name) := by
  rw [annotEvent?, Annot.paired?_eq]
  cases a.position? scope with
  | none => rfl
  | some position =>
    cases h : a.annotAt? position <;> simp [h, Option.filter, Event.message]

/-- **Looking at an annotation gives what it is paired with and tells of it.** -/
theorem scopeAnnot_eq (a : Annot) :
    cls.scopeAnnot scope a = ⟨(a.paired? scope).toList, (cls.annotEvent? scope a).toList⟩ := by
  rw [scopeAnnot, Annot.paired?_eq, annotEvent?]
  cases a.position? scope with
  | none => rfl
  | some position =>
    cases h : a.annotAt? position with
    | none => simp [h]; rfl
    | some nested => simp [h]; rfl

/-- What is copied is what each annotation pairs with the scope, in order. -/
theorem value_collect_scopeAnnot (as : List Annot) :
    (Traced.collect (cls.scopeAnnot scope) as).value = as.filterMap (·.paired? scope) := by
  simp only [Traced.value_collect, scopeAnnot_eq, List.filterMap_eq_flatMap_toList]

theorem events_collect_scopeAnnot (as : List Annot) :
    (Traced.collect (cls.scopeAnnot scope) as).events = as.filterMap (cls.annotEvent? scope) := by
  simp only [Traced.events_collect, scopeAnnot_eq, List.filterMap_eq_flatMap_toList]

theorem tellsOfAnnot_of_annotEvent? {a : Annot} {e : Event} (h : cls.annotEvent? scope a = some e) :
    e.tellsOfAnnot := by
  obtain ⟨position, -, ⟨nested, -, rfl, -⟩ | ⟨-, rfl, -⟩⟩ := annotEvent?_eq_some_iff.mp h
  · exact Event.tellsOfAnnot_iff.mpr (Or.inl ⟨_, _, _, rfl⟩)
  · exact Event.tellsOfAnnot_iff.mpr (Or.inr ⟨_, _, _, _, rfl⟩)

/-! ## Declared scopes -/

/-- A text declares the scope of that name, if any. -/
theorem mem_value_readScope_iff {text : String} :
    scope ∈ (cls.readScope text).value ↔ scope.name = text := by
  rw [readScope, ← Scope.ofString_eq_ok_iff]
  cases Scope.ofString text <;> simp [eq_comm]

/-- **A scope is declared when some annotation on the class names it.** -/
theorem mem_declaredScopes_iff :
    scope ∈ cls.declaredScopes.value ↔ ∃ a ∈ cls.annotations, (a.position? scope).isSome := by
  have htexts : scope ∈ cls.declaredScopes.value ↔ scope.name ∈ cls.scopeTexts := by
    simp [declaredScopes, Scope.distinct, List.mem_eraseDups, mem_value_readScope_iff]
  rw [htexts, scopeTexts, List.mem_flatMap]
  refine exists_congr fun a => and_congr_right fun _ => ?_
  rw [Annot.position?, List.findIdx?_isSome, List.any_eq_true, List.mem_filterMap]
  simp only [beq_iff_eq]

end ClassDecl

/-! ## Copying, telling and declaring agree -/

/-- What the initializers tell concerns no annotation. -/
theorem ClassDecl.filter_tellsOfAnnot_initializers (cls : ClassDecl) (scope : Scope) :
    (cls.initializers scope).events.filter Event.tellsOfAnnot = [] := by
  rw [events_initializers, List.filter_eq_nil_iff]
  simp only [List.mem_append, List.mem_map]
  rintro e ((⟨m, -, rfl⟩ | ⟨first, -, rfl⟩) | ⟨m, -, rfl⟩) <;> simp [Event.tellsOfAnnot_iff]

namespace Presentation

variable (presentation : Presentation) (cls : ClassDecl) (scope : Scope) (package : String)

/-- **The subclass gets what each annotation on the class pairs with the scope.** -/
theorem annotations_emit :
    (presentation.emit cls scope package).value.annotations =
      cls.annotations.filterMap (·.paired? scope) := by
  rw [← @ClassDecl.value_collect_scopeAnnot cls]
  rfl

/-- **What an emission tells of annotations is what it found at each of them.** -/
theorem filter_tellsOfAnnot_emit :
    (presentation.emit cls scope package).events.filter Event.tellsOfAnnot =
      cls.annotations.filterMap (cls.annotEvent? scope) := by
  have hannots : (cls.annotations.filterMap (cls.annotEvent? scope)).filter Event.tellsOfAnnot =
      cls.annotations.filterMap (cls.annotEvent? scope) :=
    List.filter_eq_self.mpr fun e he => by
      obtain ⟨a, -, ha⟩ := List.mem_filterMap.mp he
      exact ClassDecl.tellsOfAnnot_of_annotEvent? ha
  have hscoped : ((cls.methods.filter (·.isMemberOf scope)).map (Event.scoped ·.name scope)).filter
      Event.tellsOfAnnot = [] :=
    List.filter_eq_nil_iff.mpr fun e he => by
      obtain ⟨m, -, rfl⟩ := List.mem_map.mp he
      simp [Event.tellsOfAnnot_iff]
  rw [events_emit, ClassDecl.events_collect_scopeAnnot,
    List.filter_cons_of_neg (by simp [Event.tellsOfAnnot_iff])]
  simp only [List.filter_append, hannots, hscoped, ClassDecl.filter_tellsOfAnnot_initializers,
    List.append_nil]
  rw [List.filter_cons_of_neg (by simp [Event.tellsOfAnnot_iff]), List.filter_nil, List.append_nil]

/-- The copies are all among what is told of annotations. -/
theorem filter_copying_emit :
    (presentation.emit cls scope package).events.filter (·.message == "Copying scope annotation") =
      (cls.annotations.filterMap (·.paired? scope)).map (.copying cls.name scope ·.name) := by
  have hfilter : (presentation.emit cls scope package).events.filter
      (·.message == "Copying scope annotation") =
        ((presentation.emit cls scope package).events.filter Event.tellsOfAnnot).filter
          (·.message == "Copying scope annotation") := by
    rw [List.filter_filter]
    refine List.filter_congr fun e _ => ?_
    cases h : e.message == "Copying scope annotation" <;> simp [Event.tellsOfAnnot, h]
  rw [hfilter, filter_tellsOfAnnot_emit, List.filter_filterMap, List.map_filterMap]
  simp only [ClassDecl.filter_annotEvent?]

/-- **Copying, telling and declaring agree on what names a scope.**  The subclass gets what each
annotation on the class pairs with the scope, which is the annotation at the position where it names
the scope.  Each annotation that names the scope is told of once, in order: as a copy of what it
pairs with the scope, or with a warning that holds the position when there is no annotation at it.
The class declares the scope exactly when something is told. -/
theorem correlation_emit (presentation : Presentation) (cls : ClassDecl) (scope : Scope)
    (package : String) :
    (presentation.emit cls scope package).value.annotations =
      cls.annotations.filterMap (·.paired? scope) ∧
    (∀ a nested : Annot, a.paired? scope = some nested ↔
      ∃ position, a.NamesAt scope position ∧ a.HoldsAt nested position) ∧
    (presentation.emit cls scope package).events.filter (fun e =>
        e.message == "Copying scope annotation" || e.level == .warn) =
      cls.annotations.filterMap (cls.annotEvent? scope) ∧
    (∀ (a : Annot) (e : Event), cls.annotEvent? scope a = some e ↔
      ∃ position, a.NamesAt scope position ∧
        ((∃ nested, a.HoldsAt nested position ∧ e = .copying cls.name scope nested.name ∧
            (e.level, e.message, e.fields) = (.trace, "Copying scope annotation",
              [("class", .text cls.name), ("scope", .text scope.name),
                ("annotation", .text nested.name)])) ∨
          (∀ nested, ¬a.HoldsAt nested position) ∧
            e = .unmatched cls.name scope a.name position ∧
            (e.level, e.message, e.fields) =
              (.warn, "No annotation in `values` at the position of the scope, skipping",
                [("class", .text cls.name), ("scope", .text scope.name),
                  ("annotation", .text a.name), ("position", .count position)]))) ∧
    (presentation.emit cls scope package).events.filter
        (·.message == "Copying scope annotation") =
      (presentation.emit cls scope package).value.annotations.map
        (.copying cls.name scope ·.name) ∧
    (scope ∈ cls.declaredScopes.value ↔
      ∃ e ∈ (presentation.emit cls scope package).events,
        e.message = "Copying scope annotation" ∨ e.level = .warn) := by
  have hannots := annotations_emit presentation cls scope package
  have htold := filter_tellsOfAnnot_emit presentation cls scope package
  refine ⟨hannots, fun _ _ => Annot.paired?_eq_some_iff, htold,
    fun _ _ => ClassDecl.annotEvent?_eq_some_iff, ?_, ?_⟩
  · rw [hannots, filter_copying_emit]
  · have htells : ∀ e : Event, e.tellsOfAnnot ↔
        e.message = "Copying scope annotation" ∨ e.level = .warn := fun e => by
      rw [Event.tellsOfAnnot, Bool.or_eq_true, beq_iff_eq, beq_iff_eq]
    have hmem : ∀ e : Event, e ∈ (presentation.emit cls scope package).events ∧ e.tellsOfAnnot ↔
        ∃ a ∈ cls.annotations, cls.annotEvent? scope a = some e := fun e => by
      rw [← List.mem_filter, htold, List.mem_filterMap]
    simp only [← htells, hmem]
    rw [ClassDecl.mem_declaredScopes_iff, exists_comm]
    refine exists_congr fun a => ?_
    rw [exists_and_left, ClassDecl.annotEvent?, ← Option.isSome_iff_exists, Option.isSome_map]

end Presentation

end ScopeGen
