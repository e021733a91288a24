import Mathlib.Logic.Relation
import ScopeGen.Proofs.Emission.Declared
import ScopeGen.Proofs.Emission.Locality

/-!
# Proofs/Emission/Rewording — the ways to write what a class lists

    @MethodScope(scopes = "Foo", values = @Singleton)
    @MethodScope(scopes = {"\"Foo\""}, values = {@Singleton}, since = 2)

The scopes and the annotations beside them may be written with quotes or without, and one of them
with a list around it or without; behind them may stand any other member, and the annotation that
lists them may be marked or not (`Annot.Respelled`).  Whoever reads the two lists sees the texts
without quotes and the items (`Annot.view`), which no such change touches, so an emission and its
events do not change either (`Presentation.rewording_emit`).
-/

namespace ScopeGen

/-! ## One change -/

/-- The second text has one quote more than the first. -/
def QuoteMore (text text' : String) : Prop :=
  ∃ before after : String, text = before ++ after ∧ text' = before ++ "\"" ++ after

/-- The second value has one quote more in one of the texts that it lists. -/
inductive Value.QuoteMore : Value → Value → Prop where
  | alone {text text' : String} :
      ScopeGen.QuoteMore text text' → QuoteMore (.string text) (.string text')
  | listed {text text' : String} (left right : List Value) :
      ScopeGen.QuoteMore text text' →
        QuoteMore (.list (left ++ .string text :: right)) (.list (left ++ .string text' :: right))

namespace Annot

/-- The second annotation is the first with `v'` in place of the value `v` of its first member of
that name. -/
inductive Replaced (key : String) (v v' : Value) : Annot → Annot → Prop where
  | intro (name : String) (before after : List Member) (marker : Marker) :
      (∀ member ∈ before, member.name ≠ key) →
        Replaced key v v' ⟨name, before ++ ⟨key, v⟩ :: after, marker⟩
          ⟨name, before ++ ⟨key, v'⟩ :: after, marker⟩

/-- The two annotations differ by one change in the way in which scopes are listed. -/
inductive Respelled : Annot → Annot → Prop where
  /-- a quote more in a listed text -/
  | quote {a a' : Annot} {v v' : Value} :
      v.QuoteMore v' → Replaced "scopes" v v' a a' → Respelled a a'
  /-- a list around what is no list -/
  | box {a a' : Annot} {key : String} {v : Value} :
      key = "scopes" ∨ key = "values" → (∀ items, v ≠ .list items) →
        Replaced key v (.list [v]) a a' → Respelled a a'
  /-- more members behind those that list the scopes and the annotations -/
  | extend {a : Annot} {scopes values : Value} (more : List Member) :
      a.member? "scopes" = some scopes → a.member? "values" = some values →
        Respelled a { a with members := a.members ++ more }
  /-- another marker -/
  | remark (a : Annot) (marker : Marker) : Respelled a (a.withMarker marker)

end Annot

/-- The two classes differ by one such change in one of the annotations on them. -/
inductive ClassDecl.Respelled : ClassDecl → ClassDecl → Prop where
  | intro (cls : ClassDecl) (before after : List Annot) {a a' : Annot} : a.Respelled a' →
      Respelled (cls.annotated (before ++ a :: after)) (cls.annotated (before ++ a' :: after))

/-- A pass is the same over lists whose elements give the same in turn. -/
theorem Traced.collect_congr {α α' β : Type} {f : α → Traced (List β)} {f' : α' → Traced (List β)}
    {as : List α} {as' : List α'} (h : List.Forall₂ (fun a a' => f a = f' a') as as') :
    Traced.collect f as = Traced.collect f' as' := by
  induction h with
  | nil => rfl
  | cons ha _ ih => rw [Traced.collect, Traced.collect, ha, ih]

/-! ## What is seen of an annotation -/

/-- A quote more is left out again. -/
theorem without_of_quoteMore {text text' : String} (h : QuoteMore text text') :
    without '"' text' = without '"' text := by
  obtain ⟨before, after, rfl, rfl⟩ := h
  refine String.toList_inj.1 ?_
  simp [List.filter_append]

theorem Value.map_scopeText?_of_quoteMore {v v' : Value} (h : v.QuoteMore v') :
    v'.items.map scopeText? = v.items.map scopeText? := by
  cases h with
  | alone h => simp [items, scopeText?, without_of_quoteMore h]
  | listed left right h => simp [items, scopeText?, without_of_quoteMore h]

/-- One item is seen whether there is a list around it or not. -/
theorem Value.items_list_singleton {v : Value} (h : ∀ items, v ≠ .list items) :
    (Value.list [v]).items = v.items := by
  cases v with
  | list items => exact absurd rfl (h items)
  | _ => rfl

namespace Annot

variable {a a' : Annot}

/-- What an emission sees of an annotation on the class: its name, the listed texts without their
quotes, and the items beside them. -/
def view (a : Annot) : String × List (Option String) × List Value :=
  (a.name, a.scopeItems.map Value.scopeText?, a.valueItems)

theorem view_eq_iff : a.view = a'.view ↔ a.name = a'.name ∧
    a.scopeItems.map Value.scopeText? = a'.scopeItems.map Value.scopeText? ∧
      a.valueItems = a'.valueItems := by
  simp [view]

theorem Replaced.name_eq {key : String} {v v' : Value} (h : Replaced key v v' a a') :
    a'.name = a.name := by
  cases h
  rfl

/-- The member that is replaced is the one that is found. -/
theorem Replaced.member?_eq {key : String} {v v' : Value} (h : Replaced key v v' a a') :
    a.member? key = some v ∧ a'.member? key = some v' := by
  cases h with
  | intro name before after marker hbefore =>
    have hnone : before.find? (·.name == key) = none :=
      List.find?_eq_none.mpr fun member hmember => by simpa using hbefore member hmember
    constructor <;> simp [member?, List.find?_append, hnone]

/-- Members of other names are found as before. -/
theorem Replaced.member?_of_ne {key other : String} {v v' : Value} (h : Replaced key v v' a a')
    (hother : key ≠ other) : a'.member? other = a.member? other := by
  cases h
  simp [member?, List.find?_append, hother]

/-- A member is found in front of more members. -/
theorem member?_extend {key : String} {v : Value} (h : a.member? key = some v)
    (more : List Member) : { a with members := a.members ++ more }.member? key = some v := by
  obtain ⟨member, hmember, hvalue⟩ := Option.map_eq_some_iff.mp h
  rw [member?, List.find?_append, hmember, Option.some_or, Option.map_some, hvalue]

theorem scopeItems_of_member? {v : Value} (h : a.member? scopesMember = some v) :
    a.scopeItems = v.items := by
  rw [scopeItems, h, Option.map_some, Option.getD_some]

theorem valueItems_of_member? {v : Value} (h : a.member? valuesMember = some v) :
    a.valueItems = v.items := by
  rw [valueItems, h, Option.map_some, Option.getD_some]

/-- **One change is not seen.** -/
theorem view_of_respelled (h : a.Respelled a') : a'.view = a.view := by
  refine view_eq_iff.mpr ?_
  cases h with
  | quote hquote h =>
    refine ⟨h.name_eq, ?_, ?_⟩
    · rw [scopeItems_of_member? h.member?_eq.1, scopeItems_of_member? h.member?_eq.2,
        Value.map_scopeText?_of_quoteMore hquote]
    · rw [valueItems, valueItems, h.member?_of_ne (by decide)]
  | box hkey hlist h =>
    have hitems := Value.items_list_singleton hlist
    obtain rfl | rfl := hkey
    · refine ⟨h.name_eq, ?_, ?_⟩
      · rw [scopeItems_of_member? h.member?_eq.1, scopeItems_of_member? h.member?_eq.2, hitems]
      · rw [valueItems, valueItems, h.member?_of_ne (by decide)]
    · refine ⟨h.name_eq, ?_, ?_⟩
      · rw [scopeItems, scopeItems, h.member?_of_ne (by decide)]
      · rw [valueItems_of_member? h.member?_eq.1, valueItems_of_member? h.member?_eq.2, hitems]
  | extend more hscopes hvalues =>
    refine ⟨rfl, ?_, ?_⟩
    · rw [scopeItems_of_member? hscopes, scopeItems_of_member? (member?_extend hscopes more)]
    · rw [valueItems_of_member? hvalues, valueItems_of_member? (member?_extend hvalues more)]
  | remark marker => exact ⟨rfl, rfl, rfl⟩

/-! ## What is made of it -/

/-- The position of a scope is seen. -/
theorem position?_eq_of_view (h : a.view = a'.view) (scope : Scope) :
    a.position? scope = a'.position? scope := by
  have hposition : ∀ b : Annot, b.position? scope =
      (b.scopeItems.map Value.scopeText?).findIdx? (· == some scope.name) := fun b => by
    rw [List.findIdx?_map]
    rfl
  rw [hposition, hposition, (view_eq_iff.mp h).2.1]

/-- So is what stands at a position. -/
theorem annotAt?_eq_of_view (h : a.view = a'.view) (position : Nat) :
    a.annotAt? position = a'.annotAt? position := by
  rw [annotAt?, annotAt?, (view_eq_iff.mp h).2.2]

end Annot

namespace ClassDecl

variable {cls cls' : ClassDecl} {scope : Scope}

/-- What an emission sees of a class. -/
def view (cls : ClassDecl) :
    String × List Method × List (String × List (Option String) × List Value) :=
  (cls.name, cls.methods, cls.annotations.map Annot.view)

/-- What is seen of a class is kept when the annotations on it look the same. -/
theorem exists_annotated_of_view (h : cls'.view = cls.view) :
    ∃ annotations, cls' = cls.annotated annotations ∧
      annotations.map Annot.view = cls.annotations.map Annot.view := by
  obtain ⟨name, methods, annotations⟩ := cls'
  simp only [view, Prod.mk.injEq] at h
  obtain ⟨rfl, rfl, hannotations⟩ := h
  exact ⟨annotations, rfl, hannotations⟩

theorem view_of_respelled (h : cls.Respelled cls') : cls'.view = cls.view := by
  cases h with
  | intro cls before after h =>
    simp [view, annotated, Annot.view_of_respelled h]

/-- **No number of changes is seen**, whether they are made or undone. -/
theorem view_of_eqvGen (h : Relation.EqvGen Respelled cls cls') : cls'.view = cls.view := by
  induction h with
  | rel _ _ h => exact view_of_respelled h
  | refl _ => rfl
  | symm _ _ _ ih => exact ih.symm
  | trans _ _ _ _ _ ih ih' => exact ih'.trans ih

/-! ## What is made of what is seen -/

/-- What each annotation gives is decided by what is seen of it. -/
theorem scopeAnnot_annotated {a a' : Annot} (h : a.view = a'.view) (annotations : List Annot) :
    (cls.annotated annotations).scopeAnnot scope a = cls.scopeAnnot scope a' := by
  simp only [scopeAnnot, Annot.position?_eq_of_view h, Annot.annotAt?_eq_of_view h,
    (Annot.view_eq_iff.mp h).1]
  rfl

theorem collect_scopeAnnot_annotated {annotations : List Annot}
    (h : annotations.map Annot.view = cls.annotations.map Annot.view) :
    Traced.collect ((cls.annotated annotations).scopeAnnot scope) annotations =
      Traced.collect (cls.scopeAnnot scope) cls.annotations := by
  refine Traced.collect_congr ?_
  rw [← List.forall₂_eq_eq_eq, List.forall₂_map_left_iff, List.forall₂_map_right_iff] at h
  exact h.imp fun a a' hview => scopeAnnot_annotated hview annotations

/-- So is the list of the scopes that the class declares, with what is told of it. -/
theorem declaredScopes_annotated {annotations : List Annot}
    (h : annotations.map Annot.view = cls.annotations.map Annot.view) :
    (cls.annotated annotations).declaredScopes = cls.declaredScopes := by
  have htexts : ∀ c : ClassDecl, c.scopeTexts =
      (c.annotations.map Annot.view).flatMap fun view => view.2.1.filterMap id := fun c => by
    rw [List.flatMap_map]
    simp only [Annot.view, List.filterMap_map]
    rfl
  rw [declaredScopes, htexts, annotated, h, ← htexts]
  rfl

/-- Overrides do not depend on the annotations on the class. -/
theorem initializers_annotated (annotations : List Annot) :
    (cls.annotated annotations).initializers scope = cls.initializers scope := by
  rw [initializers_eq, initializers_eq]
  rfl

end ClassDecl

namespace Presentation

variable {cls cls' : ClassDecl}

/-- **An emission is decided by what is seen of the class**, with all its events. -/
theorem emit_eq_of_view (presentation : Presentation) (h : cls'.view = cls.view) (scope : Scope)
    (package : String) :
    presentation.emit cls' scope package = presentation.emit cls scope package := by
  obtain ⟨annotations, rfl, hannotations⟩ := ClassDecl.exists_annotated_of_view h
  have hcollect := @ClassDecl.collect_scopeAnnot_annotated cls scope annotations hannotations
  have hannotated : (cls.annotated annotations).annotations = annotations := rfl
  rw [emit, ClassDecl.initializers_annotated, hannotated, hcollect]
  rfl

/-- **How scopes are written down does not matter.**  However often quotes are put into the listed
texts or taken out of them, a list is put around one item or taken away, members are added behind
the two lists and the annotations are marked in another way: the class declares the same scopes and
has the same subclasses, and the same is told of it. -/
theorem rewording_emit {cls cls' : ClassDecl} (h : Relation.EqvGen ClassDecl.Respelled cls cls') :
    cls'.declaredScopes = cls.declaredScopes ∧
    (∀ (presentation : Presentation) (scope : Scope) (package : String),
      presentation.emit cls' scope package = presentation.emit cls scope package) ∧
    ∀ (presentation : Presentation) (package : String),
      presentation.emitDeclared cls' package = presentation.emitDeclared cls package := by
  have hview := ClassDecl.view_of_eqvGen h
  have hscopes : cls'.declaredScopes = cls.declaredScopes := by
    obtain ⟨annotations, rfl, hannotations⟩ := ClassDecl.exists_annotated_of_view hview
    exact ClassDecl.declaredScopes_annotated hannotations
  have hemit : ∀ (presentation : Presentation) (scope : Scope) (package : String),
      presentation.emit cls' scope package = presentation.emit cls scope package :=
    fun presentation scope package => emit_eq_of_view presentation hview scope package
  exact ⟨hscopes, hemit, fun presentation package => by
    simp only [emitDeclared, hscopes, hemit]⟩

/-- A class with an annotation that lists its scope with a quote, and has a list around what stands
beside it. -/
def quotedMain : ClassDecl := plainMain.annotated
  [⟨"MethodScope", [⟨"scopes", .string "\"Foo"⟩,
    ⟨"values", .list [.annot ⟨"Singleton", [], .other⟩]⟩], .other⟩]

/-- The same class with the quote taken out, the list around the other member, and more behind. -/
def listedMain : ClassDecl := plainMain.annotated
  [⟨"MethodScope", [⟨"scopes", .list [.string "Foo"]⟩,
    ⟨"values", .annot ⟨"Singleton", [], .other⟩⟩, ⟨"scopes", .string "Bar"⟩], .member barScope⟩]

theorem emit_listedMain :
    Relation.EqvGen ClassDecl.Respelled quotedMain listedMain ∧
    listedMain.declaredScopes = quotedMain.declaredScopes ∧
    (∀ (presentation : Presentation) (scope : Scope) (package : String),
      presentation.emit listedMain scope package = presentation.emit quotedMain scope package) ∧
    ∀ (presentation : Presentation) (package : String),
      presentation.emitDeclared listedMain package =
        presentation.emitDeclared quotedMain package := by
  have respell {a a' : Annot} (h : a.Respelled a') : Relation.EqvGen ClassDecl.Respelled
      (plainMain.annotated [a]) (plainMain.annotated [a']) :=
    .rel _ _ (.intro plainMain [] [] h)
  have hquote : QuoteMore "Foo" "\"Foo" := ⟨"", "Foo", rfl, rfl⟩
  have hchain : Relation.EqvGen ClassDecl.Respelled quotedMain listedMain := by
    refine .trans _ _ _ (.symm _ _ (respell (.quote (.alone hquote) (.intro _ [] _ _ nofun)))) ?_
    refine .trans _ _ _ (respell (.box (.inl rfl) (by simp) (.intro _ [] _ _ nofun))) ?_
    refine .trans _ _ _ (.symm _ _ (respell (.box (.inr rfl) (by simp)
      (.intro _ [⟨"scopes", .list [.string "Foo"]⟩] [] _ (by decide))))) ?_
    refine .trans _ _ _ (respell (.extend [⟨"scopes", .string "Bar"⟩] rfl rfl)) ?_
    exact respell (.remark _ (.member barScope))
  exact ⟨hchain, rewording_emit hchain⟩

/-- Of two lists around a scope one is seen. -/
example : (plainMain.annotated
    [⟨"MethodScope", [⟨"scopes", .list [.list [.string "Foo"]]⟩], .other⟩]).declaredScopes.value ≠
      plainMain.declaredScopes.value := by
  decide +kernel

end Presentation

end ScopeGen
