import Mathlib.Data.List.Induction
import ScopeGen.Proofs.Emission.Correlation

/-!
# Proofs/Emission/Declared — a class declares each scope where it is first listed

    items ──scope?──▸ Foo, Bar, Foo, Baz ──distinct──▸ Foo, Bar, Baz

What the annotations on a class list as scopes is read in one pass, which keeps the scopes that it
has and puts each new one behind them (`ClassDecl.declareItem`).  Started with some scopes, the pass
leaves these and then whatever is new (`foldlM_declareItem`), so an annotation more adds to the
scopes of a class at the end.  They follow one another as they are first listed
(`Scope.pair_sublist_distinct_iff`).
-/

namespace ScopeGen

/-! ## Each scope once -/

theorem filterMap_singleton {α β : Type} (f : α → Option β) (a : α) :
    [a].filterMap f = (f a).toList := by
  rw [List.filterMap_eq_flatMap_toList, List.flatMap_singleton]

/-- With an element more, a pair stands in the list when it did before or when that element ends it.
-/
theorem pair_sublist_concat_iff {α : Type} {a b c : α} {as : List α} :
    [a, b].Sublist (as ++ [c]) ↔ [a, b].Sublist as ∨ a ∈ as ∧ b = c := by
  have hreverse : ∀ bs : List α, [a, b].Sublist bs ↔ [b, a].Sublist bs.reverse := fun _ =>
    List.reverse_sublist.symm
  rw [hreverse, hreverse, List.reverse_append]
  simp [List.sublist_cons_iff, and_comm]

namespace Scope

variable {scopes : List Scope} {scope : Scope}

theorem mem_distinct : scope ∈ distinct scopes ↔ scope ∈ scopes := List.mem_eraseDups

/-- **One scope more** is put behind the others, unless it is one of them. -/
theorem distinct_concat (scopes : List Scope) (scope : Scope) :
    distinct (scopes ++ [scope]) =
      if scope ∈ scopes then distinct scopes else distinct scopes ++ [scope] := by
  rw [distinct, List.eraseDups_append, ← distinct]
  split
  case isTrue h => simp [List.removeAll, h]
  case isFalse h => simp [List.removeAll, h, List.eraseDups_cons]

/-- A scope that is there already changes nothing. -/
theorem distinct_append_toList_of_mem {scope? : Option Scope}
    (h : ∀ scope, scope? = some scope → scope ∈ scopes) :
    distinct (scopes ++ scope?.toList) = distinct scopes := by
  cases scope? with
  | none => rw [Option.toList_none, List.append_nil]
  | some scope => rw [Option.toList_some, distinct_concat, if_pos (h scope rfl)]

/-- The same behind scopes that are kept: what is put behind is none of these. -/
theorem filter_distinct_append_toList (kept scopes : List Scope) (scope? : Option Scope) :
    (distinct (scopes ++ scope?.toList)).filter (· ∉ kept) = (distinct scopes).filter (· ∉ kept) ++
      scope?.toList.filter (· ∉ kept ++ (distinct scopes).filter (· ∉ kept)) := by
  cases scope? with
  | none => simp
  | some scope =>
    rw [Option.toList_some, distinct_concat]
    by_cases hscopes : scope ∈ scopes <;> by_cases hkept : scope ∈ kept <;>
      simp [mem_distinct, hscopes, hkept]

/-- By induction from the end: a new scope is none of those before it. -/
theorem nodup_distinct (scopes : List Scope) : (distinct scopes).Nodup := by
  induction scopes using List.reverseRecOn with
  | nil => exact List.nodup_nil
  | append_singleton scopes scope ih =>
    rw [distinct_concat]
    split
    case isTrue => exact ih
    case isFalse h =>
      refine List.nodup_append.mpr ⟨ih, List.pairwise_singleton _ scope, ?_⟩
      intro s hs t ht
      rintro rfl
      exact h (mem_distinct.mp (List.mem_singleton.mp ht ▸ hs))

end Scope

/-! ## What a listed item says -/

/-- Why a text names no scope. -/
def Scope.error? (text : String) : Option Scope.Error :=
  match Scope.ofString text with
  | .ok _ => none
  | .error e => some e

theorem Scope.error?_eq_some_iff {text : String} {e : Scope.Error} :
    Scope.error? text = some e ↔ Scope.ofString text = .error e := by
  rw [Scope.error?]
  cases Scope.ofString text <;> simp

namespace Value

/-- The scope that an item names. -/
def scope? (v : Value) : Option Scope := v.scopeText?.bind Marker.scope?

/-- Why an item that is a text names no scope. -/
def scopeError? (v : Value) : Option Scope.Error := v.scopeText?.bind Scope.error?

variable {v : Value} {scope : Scope} {e : Scope.Error}

/-- An item names the scope that it is, with its quotes left out. -/
theorem scope?_eq_some_iff : v.scope? = some scope ↔ v.scopeText? = some scope.name := by
  rw [scope?, Option.bind_eq_some_iff]
  simp only [Marker.scope?_eq_some_iff]
  constructor
  · rintro ⟨text, htext, rfl⟩
    exact htext
  · intro htext
    exact ⟨scope.name, htext, rfl⟩

theorem beq_scope? (v : Value) (scope : Scope) :
    (v.scope? == some scope) = (v.scopeText? == some scope.name) := by
  rw [Bool.eq_iff_iff, beq_iff_eq, beq_iff_eq, scope?_eq_some_iff]

/-- An item names no scope when it is no text, or one that may not name a scope. -/
theorem scope?_eq_none_iff :
    v.scope? = none ↔ ∀ text, v = .string text → ¬ValidScope (without '"' text) := by
  simp only [Option.eq_none_iff_forall_ne_some, ne_eq, scope?_eq_some_iff, scopeText?_eq_some_iff]
  constructor
  · rintro h text rfl hvalid
    exact h ⟨without '"' text, hvalid⟩ ⟨text, rfl, rfl⟩
  · rintro h scope ⟨text, hv, hname⟩
    exact h text hv (hname ▸ scope.valid)

theorem scopeText?_eq_none_iff : v.scopeText? = none ↔ ∀ text, v ≠ .string text := by
  cases v <;> simp [scopeText?]

/-- What is wrong with an item is what is wrong with its text, without the quotes. -/
theorem scopeError?_eq_some_iff :
    v.scopeError? = some e ↔
      ∃ text, v = .string text ∧ Scope.ofString (without '"' text) = .error e := by
  rw [scopeError?, Option.bind_eq_some_iff]
  simp only [Scope.error?_eq_some_iff, scopeText?_eq_some_iff]
  constructor
  · rintro ⟨_, ⟨text, rfl, rfl⟩, he⟩
    exact ⟨text, rfl, he⟩
  · rintro ⟨text, rfl, he⟩
    exact ⟨_, ⟨text, rfl, rfl⟩, he⟩

end Value

theorem Annot.mem_scopeItems_iff {a : Annot} {v : Value} :
    v ∈ a.scopeItems ↔ ∃ w, a.member? scopesMember = some w ∧ v ∈ w.items := by
  rw [scopeItems]
  cases a.member? scopesMember <;> simp

namespace ClassDecl

variable {cls : ClassDecl} {scope : Scope}

/-- What the annotations on the class list as scopes, in reading order. -/
def listedItems (cls : ClassDecl) : List Value := cls.annotations.flatMap (·.scopeItems)

/-- The class with other annotations on it. -/
def annotated (cls : ClassDecl) (annotations : List Annot) : ClassDecl := { cls with annotations }

theorem listedItems_annotated (cls : ClassDecl) (before after : List Annot) (a : Annot) :
    (cls.annotated (before ++ a :: after)).listedItems =
      (cls.annotated before).listedItems ++
        (a.scopeItems ++ (cls.annotated after).listedItems) := by
  rw [listedItems, annotated, List.flatMap_append, List.flatMap_cons]
  rfl

theorem scopeTexts_eq (cls : ClassDecl) :
    cls.scopeTexts = cls.listedItems.filterMap Value.scopeText? :=
  List.filterMap_flatMap.symm

/-- A text gives a scope or an event, never both. -/
theorem readScope_eq (cls : ClassDecl) (text : String) :
    cls.readScope text =
      ⟨(Marker.scope? text).toList,
        ((Scope.error? text).map (Event.undeclarable cls.name)).toList⟩ := by
  rw [readScope, Marker.scope?, Scope.error?]
  cases Scope.ofString text <;> rfl

/-- **A class declares what its items name, each scope once.** -/
theorem value_declaredScopes (cls : ClassDecl) :
    cls.declaredScopes.value = Scope.distinct (cls.listedItems.filterMap Value.scope?) := by
  have hread : cls.listedItems.filterMap Value.scope? =
      cls.scopeTexts.flatMap (cls.readScope · |>.value) := by
    simp only [readScope_eq, ← List.filterMap_eq_flatMap_toList, scopeTexts_eq,
      List.filterMap_filterMap]
    rfl
  rw [hread, ← Traced.value_collect]
  rfl

/-- It reports each item that is a text and names no scope. -/
theorem events_declaredScopes (cls : ClassDecl) :
    cls.declaredScopes.events =
      (cls.listedItems.filterMap Value.scopeError?).map (.undeclarable cls.name) := by
  have hread : (cls.listedItems.filterMap Value.scopeError?).map (.undeclarable cls.name) =
      cls.scopeTexts.flatMap (cls.readScope · |>.events) := by
    simp only [readScope_eq, ← List.filterMap_eq_flatMap_toList, scopeTexts_eq,
      List.filterMap_filterMap, List.map_filterMap, Value.scopeError?, Option.map_bind]
    rfl
  rw [hread, ← Traced.events_collect]
  simp [declaredScopes]

/-- A class declares each of its scopes once. -/
theorem nodup_declaredScopes (cls : ClassDecl) : cls.declaredScopes.value.Nodup := by
  rw [value_declaredScopes]
  exact Scope.nodup_distinct _

/-- **A scope is declared when the first `scopes` of some annotation list it.** -/
theorem mem_declaredScopes_iff_exists_text :
    scope ∈ cls.declaredScopes.value ↔
      ∃ a ∈ cls.annotations, ∃ v, a.member? Annot.scopesMember = some v ∧
        ∃ text, .string text ∈ v.items ∧ without '"' text = scope.name := by
  rw [value_declaredScopes, Scope.mem_distinct, List.mem_filterMap]
  simp only [listedItems, List.mem_flatMap, Annot.mem_scopeItems_iff, Value.scope?_eq_some_iff,
    Value.scopeText?_eq_some_iff]
  constructor
  · rintro ⟨_, ⟨a, ha, v, hv, hmem⟩, text, rfl, hname⟩
    exact ⟨a, ha, v, hv, text, hmem, hname⟩
  · rintro ⟨a, ha, v, hv, text, hmem, hname⟩
    exact ⟨_, ⟨a, ha, v, hv, hmem⟩, text, rfl, hname⟩

/-- An item that gives nothing makes no difference to what the items give. -/
theorem filterMap_listedItems_insert {β : Type} {f : Value → Option β} {v : Value}
    (hv : f v = none) {a a' : Annot} {left right : List Value} (ha : a.scopeItems = left ++ right)
    (ha' : a'.scopeItems = left ++ v :: right) (before after : List Annot) :
    (cls.annotated (before ++ a' :: after)).listedItems.filterMap f =
      (cls.annotated (before ++ a :: after)).listedItems.filterMap f := by
  simp only [listedItems_annotated, ha, ha', List.filterMap_append, List.filterMap_cons_none hv]

/-! ## One pass over what is listed -/

/-- One step of a pass over what a class lists: a new scope is put behind those that are declared,
and a text that names no scope is reported. -/
def declareItem (cls : ClassDecl) (declared : List Scope) (v : Value) : Traced (List Scope) :=
  match v.scopeText? with
  | none => pure declared
  | some text =>
    match Scope.ofString text with
    | .ok scope => pure (if scope ∈ declared then declared else declared ++ [scope])
    | .error e => do
      Traced.report (.undeclarable cls.name e)
      return declared

/-- What a step does is decided by the scope that the item names, and by why it names none. -/
theorem declareItem_eq (cls : ClassDecl) (declared : List Scope) (v : Value) :
    cls.declareItem declared v =
      ⟨declared ++ v.scope?.toList.filter (· ∉ declared),
        v.scopeError?.toList.map (.undeclarable cls.name)⟩ := by
  rw [declareItem, Value.scope?, Value.scopeError?]
  cases v.scopeText? with
  | none => exact Traced.ext (List.append_nil declared).symm rfl
  | some text =>
    simp only [Option.bind_some, Marker.scope?, Scope.error?]
    cases Scope.ofString text with
    | error e => exact Traced.ext (List.append_nil declared).symm rfl
    | ok scope =>
      refine Traced.ext ?_ rfl
      by_cases h : scope ∈ declared <;> simp [Except.toOption, h]

/-- **The pass keeps the scopes that it starts with** and puts behind them whatever else is named,
each scope once. -/
theorem foldlM_declareItem (cls : ClassDecl) (declared : List Scope) (items : List Value) :
    items.foldlM cls.declareItem declared =
      ⟨declared ++ (Scope.distinct (items.filterMap Value.scope?)).filter (· ∉ declared),
        (items.filterMap Value.scopeError?).map (.undeclarable cls.name)⟩ := by
  induction items using List.reverseRecOn with
  | nil => exact Traced.ext (List.append_nil declared).symm rfl
  | append_singleton items v ih =>
    simp only [List.foldlM_append, ih, List.foldlM_cons, List.foldlM_nil, bind_pure,
      declareItem_eq, List.filterMap_append, filterMap_singleton]
    refine Traced.ext ?_ ?_
    · rw [Scope.filter_distinct_append_toList, ← List.append_assoc]
      rfl
    · rw [List.map_append]
      rfl

/-- **The scopes of a class are what one pass over all that it lists declares.** -/
theorem declaredScopes_eq_foldlM (cls : ClassDecl) :
    cls.declaredScopes = cls.listedItems.foldlM cls.declareItem [] := by
  rw [foldlM_declareItem]
  refine Traced.ext ?_ ?_
  · simp [value_declaredScopes]
  · exact events_declaredScopes cls

/-- **What is listed more is declared behind what was**, as far as it is new. -/
theorem value_declaredScopes_append (cls : ClassDecl) (before after : List Annot) :
    (cls.annotated (before ++ after)).declaredScopes.value =
      (cls.annotated before).declaredScopes.value ++
        (cls.annotated after).declaredScopes.value.filter
          (· ∉ (cls.annotated before).declaredScopes.value) := by
  have hitems : (cls.annotated (before ++ after)).listedItems =
      (cls.annotated before).listedItems ++ (cls.annotated after).listedItems :=
    List.flatMap_append
  have hbefore : (cls.annotated before).declaredScopes =
      (cls.annotated before).listedItems.foldlM (cls.annotated (before ++ after)).declareItem [] :=
    declaredScopes_eq_foldlM _
  rw [declaredScopes_eq_foldlM, hitems, List.foldlM_append, ← hbefore, Traced.value_bind,
    foldlM_declareItem, ← value_declaredScopes]

/-- So an annotation more extends the list at its end. -/
theorem value_declaredScopes_prefix_withAnnot (cls : ClassDecl) (a : Annot) :
    cls.declaredScopes.value <+: (cls.withAnnot a).declaredScopes.value :=
  ⟨_, (value_declaredScopes_append cls cls.annotations [a]).symm⟩

end ClassDecl

/-! ## The order of the scopes -/

namespace Scope

variable {scope scope' : Scope} {items : List Value} {v : Value}

/-- Where the items name the scope first. -/
def firstAt? (scope : Scope) (items : List Value) : Option Nat :=
  items.findIdx? (·.scope? == some scope)

/-- The items name the one scope for the first time before the other. -/
def NamedBefore (scope scope' : Scope) (items : List Value) : Prop :=
  ∃ i j, scope.firstAt? items = some i ∧ scope'.firstAt? items = some j ∧ i < j

/-- A scope is named first somewhere just when it is named. -/
theorem exists_firstAt?_iff :
    (∃ i, scope.firstAt? items = some i) ↔ scope ∈ items.filterMap Value.scope? := by
  rw [← Option.isSome_iff_exists, firstAt?, List.findIdx?_isSome, List.any_eq_true,
    List.mem_filterMap]
  simp only [beq_iff_eq]

theorem firstAt?_eq_none_iff :
    scope.firstAt? items = none ↔ scope ∉ items.filterMap Value.scope? := by
  rw [← exists_firstAt?_iff, Option.eq_none_iff_forall_ne_some, not_exists]

theorem lt_length_of_firstAt? {i : Nat} (h : scope.firstAt? items = some i) : i < items.length :=
  (List.findIdx?_eq_some_iff_getElem.mp h).1

/-- With an item more at the end, a scope is named first where it was, or else by that item. -/
theorem firstAt?_concat_iff {i : Nat} :
    scope.firstAt? (items ++ [v]) = some i ↔ scope.firstAt? items = some i ∨
      scope.firstAt? items = none ∧ v.scope? = some scope ∧ i = items.length := by
  rw [firstAt?, List.findIdx?_append, ← firstAt?]
  cases scope.firstAt? items with
  | some j => simp
  | none =>
    by_cases hv : v.scope? = some scope
    · simp [List.findIdx?_cons, hv, eq_comm (a := i)]
    · simp [List.findIdx?_cons, hv]

/-- An item that names no new scope is the first to name none. -/
theorem firstAt?_concat_of_mem
    (hv : ∀ named, v.scope? = some named → named ∈ items.filterMap Value.scope?) :
    scope.firstAt? (items ++ [v]) = scope.firstAt? items := by
  ext i
  rw [firstAt?_concat_iff, or_iff_left]
  rintro ⟨hnone, hscope, -⟩
  exact firstAt?_eq_none_iff.mp hnone (hv scope hscope)

/-- A new scope is named for the first time after all that are named before it. -/
theorem namedBefore_concat_iff {new : Scope} (hv : v.scope? = some new)
    (hnew : new ∉ items.filterMap Value.scope?) :
    scope.NamedBefore scope' (items ++ [v]) ↔
      scope.NamedBefore scope' items ∨ scope ∈ items.filterMap Value.scope? ∧ scope' = new := by
  rw [← exists_firstAt?_iff]
  simp only [NamedBefore, firstAt?_concat_iff, hv]
  constructor
  · rintro ⟨i, j, hi | ⟨-, -, rfl⟩, hj | ⟨-, hs, rfl⟩, hij⟩
    · exact Or.inl ⟨i, j, hi, hj, hij⟩
    · exact Or.inr ⟨⟨i, hi⟩, (Option.some.inj hs).symm⟩
    · exact absurd hij (Nat.not_lt.mpr (lt_length_of_firstAt? hj).le)
    · exact absurd hij (Nat.lt_irrefl _)
  · rintro (⟨i, j, hi, hj, hij⟩ | ⟨⟨i, hi⟩, rfl⟩)
    · exact ⟨i, j, Or.inl hi, Or.inl hj, hij⟩
    · exact ⟨i, items.length, Or.inl hi, Or.inr ⟨firstAt?_eq_none_iff.mpr hnew, rfl, rfl⟩,
        lt_length_of_firstAt? hi⟩

/-- **Scopes follow one another as they are first named.** -/
theorem pair_sublist_distinct_iff :
    [scope, scope'].Sublist (distinct (items.filterMap Value.scope?)) ↔
      scope.NamedBefore scope' items := by
  induction items using List.reverseRecOn with
  | nil => simp [NamedBefore, firstAt?, distinct]
  | append_singleton items v ih =>
    rw [List.filterMap_append, filterMap_singleton]
    by_cases hold : ∀ named, v.scope? = some named → named ∈ items.filterMap Value.scope?
    · -- neither the scopes nor their first places change
      simp only [distinct_append_toList_of_mem hold, NamedBefore, firstAt?_concat_of_mem hold]
      exact ih
    · -- a new scope comes last among the scopes and is named last
      push Not at hold
      obtain ⟨new, hv, hnew⟩ := hold
      rw [hv, Option.toList_some, distinct_concat, if_neg hnew, pair_sublist_concat_iff, ih,
        mem_distinct, namedBefore_concat_iff hv hnew]

end Scope

namespace ClassDecl

variable {cls : ClassDecl} {scope : Scope}

/-- **The class lists the scope first at this position** of all that it lists: there stands the
first text that is the scope with its quotes left out. -/
def ListsFirstAt (cls : ClassDecl) (scope : Scope) (position : Nat) : Prop :=
  IsLeast {i | ∃ text, cls.listedItems[i]? = some (.string text) ∧ without '"' text = scope.name}
    position

/-- What is found first stands at the least position. -/
theorem firstAt?_listedItems_iff {position : Nat} :
    scope.firstAt? cls.listedItems = some position ↔ cls.ListsFirstAt scope position := by
  rw [ListsFirstAt, ← Value.findIdx?_scopeText?_iff, Scope.firstAt?]
  simp only [Value.beq_scope?]

/-- **A class declares the scopes that it lists, each once and where it is first listed.**  What
is listed stands as a text among the first `scopes` of an annotation on the class and is the scope
with its quotes left out.  What is listed later is declared later, so an annotation more only adds
at the end.  A text that names no scope is reported for what is wrong with it each time it stands;
otherwise it makes no difference, and an item that is no text makes none at all. -/
theorem union_declaredScopes (cls : ClassDecl) :
    cls.declaredScopes.value.Nodup ∧
    (∀ scope : Scope, scope ∈ cls.declaredScopes.value ↔
      ∃ a ∈ cls.annotations, ∃ v, a.member? "scopes" = some v ∧
        ∃ text, .string text ∈ v.items ∧ without '"' text = scope.name) ∧
    (∀ scope scope' : Scope, [scope, scope'].Sublist cls.declaredScopes.value ↔
      ∃ i j, cls.ListsFirstAt scope i ∧ cls.ListsFirstAt scope' j ∧ i < j) ∧
    (∀ before after : List Annot, (cls.annotated (before ++ after)).declaredScopes.value =
      (cls.annotated before).declaredScopes.value ++
        (cls.annotated after).declaredScopes.value.filter
          (· ∉ (cls.annotated before).declaredScopes.value)) ∧
    (∀ a : Annot, cls.declaredScopes.value <+: (cls.withAnnot a).declaredScopes.value) ∧
    (cls.declaredScopes.events.map (fun e => (e.level, e.message, e.fields)) =
        (cls.listedItems.filterMap Value.scopeError?).map (fun e =>
          (.trace, "Skipping undeclarable scope",
            [("class", .text cls.name), ("error", .text e.message)])) ∧
      ∀ (v : Value) (e : Scope.Error), v.scopeError? = some e ↔
        ∃ text, v = .string text ∧ Scope.ofString (without '"' text) = .error e) ∧
    (∀ (before after : List Annot) (a a' : Annot) (left right : List Value) (v : Value),
      a.scopeItems = left ++ right → a'.scopeItems = left ++ v :: right →
      ((∀ text, v = .string text → ¬ValidScope (without '"' text)) →
        (cls.annotated (before ++ a' :: after)).declaredScopes.value =
          (cls.annotated (before ++ a :: after)).declaredScopes.value) ∧
      ((∀ text, v ≠ .string text) →
        (cls.annotated (before ++ a' :: after)).declaredScopes =
          (cls.annotated (before ++ a :: after)).declaredScopes)) := by
  refine ⟨nodup_declaredScopes cls, fun scope => mem_declaredScopes_iff_exists_text,
    fun scope scope' => ?_, value_declaredScopes_append cls,
    value_declaredScopes_prefix_withAnnot cls, ⟨?_, fun v e => Value.scopeError?_eq_some_iff⟩,
    fun before after a a' left right v ha ha' => ⟨fun hv => ?_, fun hv => ?_⟩⟩
  · rw [value_declaredScopes, Scope.pair_sublist_distinct_iff]
    simp only [Scope.NamedBefore, firstAt?_listedItems_iff]
  · rw [events_declaredScopes, List.map_map]
    rfl
  · rw [value_declaredScopes, value_declaredScopes,
      filterMap_listedItems_insert (Value.scope?_eq_none_iff.mpr hv) ha ha']
  · have htext := Value.scopeText?_eq_none_iff.mpr hv
    have hscope : v.scope? = none := by rw [Value.scope?, htext, Option.bind_none]
    have herror : v.scopeError? = none := by rw [Value.scopeError?, htext, Option.bind_none]
    refine Traced.ext ?_ ?_
    · rw [value_declaredScopes, value_declaredScopes, filterMap_listedItems_insert hscope ha ha']
    · rw [events_declaredScopes, events_declaredScopes,
        filterMap_listedItems_insert herror ha ha']
      rfl

/-- An annotation that lists these items as scopes. -/
def listing (items : List Value) : Annot := ⟨"MethodScope", [⟨"scopes", .list items⟩], .other⟩

/-- A class that lists these items between two scopes. -/
def noisyMain (items : List Value) : ClassDecl :=
  annotated { name := "Main" }
    ([listing [.string "Bar"]] ++ listing items :: [listing [.string "Baz"]])

theorem declaredScopes_noisyMain :
    ((listing [.string "Foo"]).scopeItems = [.string "Foo"] ++ [] ∧
      (listing [.string "Foo", .string "\"\""]).scopeItems =
        [.string "Foo"] ++ .string "\"\"" :: [] ∧
      (∀ text, Value.string "\"\"" = .string text → ¬ValidScope (without '"' text)) ∧
      (noisyMain [.string "Foo", .string "\"\""]).declaredScopes.value =
        (noisyMain [.string "Foo"]).declaredScopes.value) ∧
    (listing [.string "Foo", .integer 5]).scopeItems = [.string "Foo"] ++ .integer 5 :: [] ∧
    (∀ text, Value.integer 5 ≠ .string text) ∧
    (noisyMain [.string "Foo", .integer 5]).declaredScopes =
      (noisyMain [.string "Foo"]).declaredScopes := by
  obtain ⟨-, -, -, -, -, -, hinsert⟩ := union_declaredScopes { name := "Main" }
  have hempty : ∀ text, Value.string "\"\"" = .string text → ¬ValidScope (without '"' text) := by
    rintro _ ⟨⟩ ⟨hname, -⟩
    exact hname (by decide)
  have hfive : ∀ text, Value.integer 5 ≠ .string text := nofun
  exact ⟨⟨rfl, rfl, hempty, (hinsert _ _ _ _ [.string "Foo"] [] _ rfl rfl).1 hempty⟩,
    rfl, hfive, (hinsert _ _ _ _ [.string "Foo"] [] _ rfl rfl).2 hfive⟩

/-- Quotes do not count, and neither does what is listed again or is empty. -/
example :
    let scopes (items : List Value) : Annot :=
      ⟨"MethodScope", [⟨"scopes", .list items⟩], .other⟩
    let cls : ClassDecl :=
      { name := "Main"
        annotations := [scopes [.string "Foo", .string "\"Bar\""],
          scopes [.string "Bar", .string "", .string "Baz"]] }
    cls.declaredScopes.value.map (·.name) = ["Foo", "Bar", "Baz"] := by
  decide

end ClassDecl

end ScopeGen
