import Mathlib.Data.List.Forall2
import ScopeGen.Proofs.Emission.Correlation

/-!
# Proofs/Emission/Locality — an emission sees only what concerns its scope

    methods ──relevant──▸ members, initializers, first `initializeScopes` ──view──▸ what is seen

Of a method an emission sees its signature and whether it is a member or an initializer of the scope
(`Method.view`), and of a class only the methods that concern the scope (`ClassDecl.relevant`).  The
pass over the initializers runs in step on all methods and on these alone
(`value_initializersFrom_relevantFrom`), and on lists that look alike
(`value_initializersFrom_congr`).
-/

namespace ScopeGen

/-! ## What is seen of a method -/

namespace Method

/-- What an emission for the scope sees of a method. -/
def view (scope : Scope) (m : Method) : Signature × Bool × Bool :=
  (m.signature, m.isMemberOf scope, m.isInitializerOf scope)

/-- The methods look alike to an emission for the scope. -/
def Alike (scope : Scope) (m m' : Method) : Prop := m.view scope = m'.view scope

/-- The method is a member or an initializer of the scope. -/
def isMarked (scope : Scope) (m : Method) : Bool := m.isMemberOf scope || m.isInitializerOf scope

variable {scope : Scope} {m m' : Method}

theorem alike_iff : Alike scope m m' ↔
    m.signature = m'.signature ∧ m.isMemberOf scope = m'.isMemberOf scope ∧
      m.isInitializerOf scope = m'.isInitializerOf scope := by
  simp [Alike, view]

theorem Alike.name_eq (h : Alike scope m m') : m.name = m'.name :=
  congrArg Signature.name (alike_iff.mp h).1

/-- Methods that look alike are forwarded alike. -/
theorem Alike.initializerForward_eq (h : Alike scope m m') :
    (ClassDecl.initializerForward scope m).value =
      (ClassDecl.initializerForward scope m').value := by
  obtain ⟨hsignature, -, hinit⟩ := alike_iff.mp h
  rw [ClassDecl.initializerForward, ClassDecl.initializerForward, hsignature, hinit]
  split <;> rfl

theorem forall₂_alike_iff {ms ms' : List Method} :
    List.Forall₂ (Alike scope) ms ms' ↔ ms.map (·.view scope) = ms'.map (·.view scope) := by
  rw [← List.forall₂_eq_eq_eq, List.forall₂_map_left_iff, List.forall₂_map_right_iff]
  rfl

/-- A question and a function that see only the view choose and make the same. -/
theorem map_filter_congr {α : Type} {p : Method → Bool} {f : Method → α} {ms ms' : List Method}
    (hp : ∀ m m', Alike scope m m' → p m = p m') (hf : ∀ m m', Alike scope m m' → f m = f m')
    (h : List.Forall₂ (Alike scope) ms ms') : (ms.filter p).map f = (ms'.filter p).map f := by
  induction h with
  | nil => rfl
  | @cons m m' _ _ hm _ ih =>
    rw [List.filter_cons, List.filter_cons, hp m m' hm]
    split
    · rw [List.map_cons, List.map_cons, hf m m' hm, ih]
    · exact ih

end Method

namespace ClassDecl

/-! ## The methods that concern a scope -/

/-- The methods of a class that concern the scope: its members, its initializers and the first
method called `initializeScopes`. -/
def relevant (cls : ClassDecl) (scope : Scope) : List Method :=
  (cls.methods.zipIdx.filter fun (m, i) => m.isMemberOf scope || m.isInitializerOf scope ||
    cls.methods.findIdx? (·.name == "initializeScopes") == some i).map (·.1)

/-- The methods that concern the scope among those still ahead of a pass, where
`initializeScopes` may have been `declared` before. -/
def relevantFrom (scope : Scope) (declared : Bool) : List Method → List Method
  | [] => []
  | m :: rest =>
    if m.isMarked scope || (!declared && m.name == initializeScopes) then
      m :: relevantFrom scope (declared || m.name == initializeScopes) rest
    else
      relevantFrom scope (declared || m.name == initializeScopes) rest

variable {cls cls' : ClassDecl} {scope : Scope} {m : Method}

/-- Behind a declaration of `initializeScopes` only marked methods concern the scope. -/
theorem relevantFrom_true (ms : List Method) :
    relevantFrom scope true ms = ms.filter (·.isMarked scope) := by
  induction ms with
  | nil => rfl
  | cons m rest ih => cases h : m.isMarked scope <;> simp [relevantFrom, ih, h]

theorem relevantFrom_append (before after : List Method) (declared : Bool) :
    relevantFrom scope declared (before ++ after) = relevantFrom scope declared before ++
      relevantFrom scope (declared || before.any (·.name == initializeScopes)) after := by
  induction before generalizing declared with
  | nil => simp [relevantFrom]
  | cons m before ih =>
    simp only [relevantFrom, List.cons_append, List.any_cons, ih, Bool.or_assoc]
    split <;> rfl

/-- A method that is not marked concerns the scope only as the first `initializeScopes`. -/
theorem relevantFrom_cons_of_not_isMarked (hmarked : m.isMarked scope = false) {declared : Bool}
    (hdeclared : m.name = initializeScopes → declared = true) (rest : List Method) :
    relevantFrom scope declared (m :: rest) = relevantFrom scope declared rest := by
  rw [relevantFrom, hmarked]
  cases hname : m.name == initializeScopes with
  | false => simp
  | true => simp [hdeclared (by simpa using hname)]

/-- The marked methods and the one at `place`, where the places are counted from `k`. -/
def markedOrAt (scope : Scope) (place : Option Nat) (k : Nat) (ms : List Method) : List Method :=
  ((ms.zipIdx k).filter fun x => x.1.isMarked scope || place == some x.2).map (·.1)

theorem markedOrAt_cons (place : Option Nat) (k : Nat) (m : Method) (rest : List Method) :
    markedOrAt scope place k (m :: rest) =
      if m.isMarked scope || place == some k then m :: markedOrAt scope place (k + 1) rest
      else markedOrAt scope place (k + 1) rest := by
  rw [markedOrAt, List.zipIdx_cons, List.filter_cons]
  split <;> rfl

/-- No method is chosen for a place that is behind. -/
theorem markedOrAt_of_lt {place : Option Nat} {k : Nat} (h : ∀ i ∈ place, i < k)
    (ms : List Method) : markedOrAt scope place k ms = ms.filter (·.isMarked scope) := by
  induction ms generalizing k with
  | nil => rfl
  | cons m rest ih =>
    have hplace : (place == some k) = false := by
      simpa using fun hk => Nat.lt_irrefl k (h k hk)
    rw [markedOrAt_cons, hplace, Bool.or_false, ih fun i hi => Nat.lt_succ_of_lt (h i hi),
      List.filter_cons]

/-- Choosing methods by the place of the first `initializeScopes` is going through them with a
flag. -/
theorem markedOrAt_findIdx? (ms : List Method) (k : Nat) :
    markedOrAt scope ((ms.findIdx? (·.name == initializeScopes)).map (k + ·)) k ms =
      relevantFrom scope false ms := by
  induction ms generalizing k with
  | nil => rfl
  | cons m rest ih =>
    rw [markedOrAt_cons, relevantFrom, List.findIdx?_cons]
    cases hname : m.name == initializeScopes with
    | true =>
      have hrest : markedOrAt scope (some k) (k + 1) rest = relevantFrom scope true rest := by
        rw [relevantFrom_true, markedOrAt_of_lt]
        simp
      simp [hrest]
    | false =>
      have hplace : ((rest.findIdx? (·.name == initializeScopes)).map (· + 1)).map (k + ·) =
          (rest.findIdx? (·.name == initializeScopes)).map (k + 1 + ·) := by
        rw [Option.map_map]
        exact congrArg (Option.map · _) (funext fun i => by simp only [Function.comp]; omega)
      have hhead : ((rest.findIdx? (·.name == initializeScopes)).map (k + 1 + ·) == some k) =
          false := by
        cases rest.findIdx? (·.name == initializeScopes) <;> simp
        omega
      simp only [Bool.false_eq_true, if_false, hplace, hhead, ih]
      rfl

theorem relevant_eq (cls : ClassDecl) (scope : Scope) :
    cls.relevant scope = relevantFrom scope false cls.methods := by
  have hplaces := @markedOrAt_findIdx? scope cls.methods 0
  simp only [Nat.zero_add, Option.map_id'] at hplaces
  exact hplaces

/-! ## One pass over two lists -/

/-- One step of the pass: a method leaves its forward, and the override of `initializeScopes` where
it is declared first. -/
theorem value_initializersFrom_cons (declared : Bool) (m : Method) (rest : List Method) :
    (cls.initializersFrom scope declared (m :: rest)).value =
      (initializerForward scope m).value ++
        (if !declared && m.name == initializeScopes then (cls.aggregate scope m).value else []) ++
        (cls.initializersFrom scope (declared || m.name == initializeScopes) rest).value := by
  rw [initializersFrom]
  cases declared <;> cases m.name == initializeScopes <;> simp

/-- **The pass runs in step on all methods and on those that concern the scope**: any other method
leaves nothing and does not move the flag. -/
theorem value_initializersFrom_relevantFrom (ms : List Method) (declared : Bool) :
    (cls.initializersFrom scope declared (relevantFrom scope declared ms)).value =
      (cls.initializersFrom scope declared ms).value := by
  induction ms generalizing declared with
  | nil => rfl
  | cons m rest ih =>
    rw [relevantFrom, value_initializersFrom_cons]
    split
    case isTrue => rw [value_initializersFrom_cons, ih]
    case isFalse h =>
      rw [Bool.not_eq_true, Bool.or_eq_false_iff] at h
      obtain ⟨hmarked, hfirst⟩ := h
      have hforward : (initializerForward scope m).value = [] := by
        rw [initializerForward, (Bool.or_eq_false_iff.mp hmarked).2]
        rfl
      have hflag : (declared || m.name == initializeScopes) = declared := by
        cases declared <;> simp_all
      rw [hforward, hfirst, hflag, ← ih declared]
      rfl

/-- The override of `initializeScopes` depends on its declaration and on what it calls. -/
theorem value_aggregate_congr {m m' : Method} (hm : m.Alike scope m')
    (hcalls : (cls.methods.filter (·.isInitializerOf scope)).map (·.name) =
      (cls'.methods.filter (·.isInitializerOf scope)).map (·.name)) :
    (cls.aggregate scope m).value = (cls'.aggregate scope m').value := by
  have hvalue : ∀ (c : ClassDecl) (m : Method), (c.aggregate scope m).value =
      [⟨m.signature, .aggregateInitializer, .super initializeScopes ::
        ((c.methods.filter (·.isInitializerOf scope)).map (·.name)).map .self⟩] := fun c m => by
    rw [List.map_map]
    rfl
  rw [hvalue, hvalue, hcalls, (Method.alike_iff.mp hm).1]

/-- **The pass leaves the same on lists that look alike.** -/
theorem value_initializersFrom_congr {ms ms' : List Method}
    (hcalls : (cls.methods.filter (·.isInitializerOf scope)).map (·.name) =
      (cls'.methods.filter (·.isInitializerOf scope)).map (·.name))
    (h : List.Forall₂ (Method.Alike scope) ms ms') (declared : Bool) :
    (cls.initializersFrom scope declared ms).value =
      (cls'.initializersFrom scope declared ms').value := by
  induction h generalizing declared with
  | nil => rfl
  | cons hm _ ih =>
    rw [value_initializersFrom_cons, value_initializersFrom_cons, hm.initializerForward_eq,
      value_aggregate_congr hm hcalls, hm.name_eq, ih]

/-! ## The overrides that are seen -/

/-- The class with only the methods that concern the scope. -/
def restrict (cls : ClassDecl) (scope : Scope) : ClassDecl :=
  { cls with methods := cls.relevant scope }

/-- What is chosen of the methods for being marked concerns the scope. -/
theorem filter_relevantFrom {p : Method → Bool} (hp : ∀ m, p m → m.isMarked scope)
    (ms : List Method) (declared : Bool) :
    (relevantFrom scope declared ms).filter p = ms.filter p := by
  induction ms generalizing declared with
  | nil => rfl
  | cons m rest ih =>
    rw [relevantFrom, List.filter_cons]
    split
    case isTrue => rw [List.filter_cons, ih]
    case isFalse h =>
      have hpm : p m = false := Bool.eq_false_iff.mpr fun hpm => h (by rw [hp m hpm, Bool.true_or])
      rw [ih, hpm, if_neg Bool.false_ne_true]

theorem filter_isInitializerOf_relevant (cls : ClassDecl) (scope : Scope) :
    (cls.relevant scope).filter (·.isInitializerOf scope) =
      cls.methods.filter (·.isInitializerOf scope) := by
  rw [relevant_eq]
  exact filter_relevantFrom (fun m hm => by rw [Method.isMarked, hm, Bool.or_true]) _ _

theorem filter_isMemberOf_relevant (cls : ClassDecl) (scope : Scope) :
    (cls.relevant scope).filter (·.isMemberOf scope) =
      cls.methods.filter (·.isMemberOf scope) := by
  rw [relevant_eq]
  exact filter_relevantFrom (fun m hm => by rw [Method.isMarked, hm, Bool.true_or]) _ _

end ClassDecl

/-- The subclass with another head comment and other modifiers. -/
def Subclass.presentedBy (sub : Subclass) (presentation : Presentation) : Subclass :=
  { sub with doc := presentation.header, modifiers := presentation.modifiers }

namespace Presentation

variable (presentation : Presentation) {cls cls' : ClassDecl} (scope : Scope) (package : String)

/-- **A class is overridden as its methods are that concern the scope.** -/
theorem methods_emit_restrict (cls : ClassDecl) :
    (presentation.emit (cls.restrict scope) scope package).value.methods =
      (presentation.emit cls scope package).value.methods := by
  have hpass : ((cls.restrict scope).initializers scope).value =
      (cls.initializers scope).value := by
    have hcongr := @ClassDecl.value_initializersFrom_congr (cls.restrict scope) cls scope
      (cls.relevant scope) (cls.relevant scope)
      (by rw [ClassDecl.restrict, ClassDecl.filter_isInitializerOf_relevant])
      (Method.forall₂_alike_iff.mpr rfl) false
    refine hcongr.trans ?_
    rw [ClassDecl.relevant_eq, ClassDecl.value_initializersFrom_relevantFrom]
    rfl
  rw [methods_emit, methods_emit, hpass, ClassDecl.restrict, ClassDecl.filter_isMemberOf_relevant]

/-- **Classes with methods that look alike are overridden alike.** -/
theorem methods_emit_congr
    (h : cls.methods.map (·.view scope) = cls'.methods.map (·.view scope)) :
    (presentation.emit cls scope package).value.methods =
      (presentation.emit cls' scope package).value.methods := by
  have halike := Method.forall₂_alike_iff.mpr h
  have hcalls : (cls.methods.filter (·.isInitializerOf scope)).map (·.name) =
      (cls'.methods.filter (·.isInitializerOf scope)).map (·.name) :=
    Method.map_filter_congr (fun m m' hm => (Method.alike_iff.mp hm).2.2)
      (fun m m' hm => hm.name_eq) halike
  have hscoped : forwards .scopedForward (cls.methods.filter (·.isMemberOf scope)) =
      forwards .scopedForward (cls'.methods.filter (·.isMemberOf scope)) :=
    Method.map_filter_congr (fun m m' hm => (Method.alike_iff.mp hm).2.1)
      (fun m m' hm => by rw [(Method.alike_iff.mp hm).1]) halike
  rw [methods_emit, methods_emit, hscoped]
  exact congrArg (· ++ _) (ClassDecl.value_initializersFrom_congr hcalls halike false)

/-- Two emissions for a scope that agree on the name, on what the scope is given and on what is seen
of the methods differ in their presentation alone. -/
theorem value_emit_congr (presentation presentation' : Presentation) (hname : cls.name = cls'.name)
    (hannots : (cls.annotations.filterMap fun a => (a.position? scope).bind a.annotAt?) =
      cls'.annotations.filterMap fun a => (a.position? scope).bind a.annotAt?)
    (hmethods : (presentation.emit cls scope package).value.methods =
      (presentation.emit cls' scope package).value.methods) :
    (presentation'.emit cls' scope package).value =
      (presentation.emit cls scope package).value.presentedBy presentation' := by
  have hannots' : (presentation.emit cls scope package).value.annotations =
      (presentation'.emit cls' scope package).value.annotations := by
    simpa only [annotations_emit, Annot.paired?_eq] using hannots
  have hmethods' : (presentation.emit cls scope package).value.methods =
      (presentation'.emit cls' scope package).value.methods := by
    rw [hmethods, methods_emit, methods_emit]
  have hname' : (presentation.emit cls scope package).value.name =
      (presentation'.emit cls' scope package).value.name := congrArg scope.classNameFor hname
  have hsuperclass : (presentation.emit cls scope package).value.superclass =
      (presentation'.emit cls' scope package).value.superclass := hname
  rw [Subclass.presentedBy, hname', hsuperclass, hannots', hmethods']
  rfl

/-- **An emission sees only what concerns its scope.**  Classes of one name whose methods that
concern the scope look alike, and which are given the same annotations for it, have the same
subclass; how it is presented shows in its head comment and modifiers alone.  So a method that does
not concern the scope may stand anywhere or be left out, and the annotations on methods may change
as long as the methods look alike. -/
theorem locality_emit (scope : Scope) (package : String) :
    (∀ cls cls' : ClassDecl, cls.name = cls'.name →
      (cls.relevant scope).map (·.view scope) = (cls'.relevant scope).map (·.view scope) →
      (cls.annotations.filterMap fun a => (a.position? scope).bind a.annotAt?) =
        (cls'.annotations.filterMap fun a => (a.position? scope).bind a.annotAt?) →
      ∀ presentation presentation' : Presentation,
        (presentation.emit cls' scope package).value =
          (presentation.emit cls scope package).value ∧
        (presentation'.emit cls' scope package).value =
          (presentation.emit cls scope package).value.presentedBy presentation') ∧
    (∀ (presentation : Presentation) (cls : ClassDecl) (before after : List Method) (m : Method),
      m.isMemberOf scope = false → m.isInitializerOf scope = false →
      (m.name = "initializeScopes" → ∃ first ∈ before, first.name = "initializeScopes") →
      (presentation.emit { cls with methods := before ++ m :: after } scope package).value =
        (presentation.emit { cls with methods := before ++ after } scope package).value) ∧
    (∀ (presentation : Presentation) (cls : ClassDecl) (methods : List Method),
      methods.map (·.view scope) = cls.methods.map (·.view scope) →
      (presentation.emit { cls with methods } scope package).value =
        (presentation.emit cls scope package).value) := by
  refine ⟨fun cls cls' hname hviews hannots presentation presentation' => ?_,
    fun presentation cls before after m hmember hinit hname => ?_,
    fun presentation cls methods hviews => ?_⟩
  · have hmethods : (presentation.emit cls scope package).value.methods =
        (presentation.emit cls' scope package).value.methods := by
      rw [← methods_emit_restrict presentation scope package cls,
        ← methods_emit_restrict presentation scope package cls']
      exact methods_emit_congr presentation scope package hviews
    exact ⟨value_emit_congr scope package presentation presentation hname hannots hmethods,
      value_emit_congr scope package presentation presentation' hname hannots hmethods⟩
  · have hrelevant : ({ cls with methods := before ++ after } : ClassDecl).restrict scope =
        ({ cls with methods := before ++ m :: after } : ClassDecl).restrict scope := by
      have hmarked : m.isMarked scope = false := by rw [Method.isMarked, hmember, hinit]; rfl
      have hdeclared : m.name = initializeScopes →
          (false || before.any (·.name == initializeScopes)) = true := fun h => by
        obtain ⟨first, hfirst, hname⟩ := hname h
        exact List.any_eq_true.mpr ⟨first, hfirst, beq_iff_eq.mpr hname⟩
      simp only [ClassDecl.restrict, ClassDecl.relevant_eq, ClassDecl.relevantFrom_append,
        ClassDecl.relevantFrom_cons_of_not_isMarked hmarked hdeclared]
    refine value_emit_congr scope package presentation presentation rfl rfl ?_
    rw [← methods_emit_restrict, hrelevant, methods_emit_restrict]
  · exact value_emit_congr scope package presentation presentation rfl rfl
      (methods_emit_congr presentation scope package hviews.symm)

/-- A scope to emit for. -/
def fooScope : Scope := ⟨"Foo", by decide, List.all_eq_true.mp (by decide)⟩

/-- Another scope. -/
def barScope : Scope := ⟨"Bar", by decide, List.all_eq_true.mp (by decide)⟩

/-- A method of another scope, which overloads `initializeScopes`. -/
def barOverload : Method :=
  ⟨{ name := "initializeScopes", returnType := "int" },
    [⟨"BarScope", [], .member barScope⟩]⟩

/-- A class with nothing but what concerns the scope. -/
def plainMain : ClassDecl where
  name := "Main"
  methods := [⟨{ name := "initializeScopes" }, []⟩,
    ⟨{ name := "setUp" }, [⟨"InitFooScope", [], .initializer fooScope⟩]⟩,
    ⟨{ name := "run" }, [⟨"FooScope", [], .member fooScope⟩]⟩]
  annotations := [⟨"MethodScope",
    [⟨"scopes", .string "Foo"⟩, ⟨"values", .annot ⟨"Singleton", [], .other⟩⟩], .other⟩]

/-- A class with more around it. -/
def busyMain : ClassDecl where
  name := "Main"
  methods := [⟨{ name := "help" }, []⟩, ⟨{ name := "initializeScopes" }, []⟩, barOverload,
    ⟨{ name := "setUp" },
      [⟨"Prepare", [], .initializer fooScope⟩, ⟨"InitFooScope", [], .initializer fooScope⟩]⟩,
    ⟨{ name := "run" }, [⟨"FooScope", [], .member fooScope⟩]⟩]
  annotations := [⟨"Author", [⟨"name", .string "Foo"⟩], .other⟩,
    ⟨"MethodScope", [⟨"scopes", .list [.string "Bar", .string "\"Foo\""]⟩,
      ⟨"values", .list [.bool true, .annot ⟨"Singleton", [], .other⟩]⟩], .other⟩]

theorem emit_busyMain :
    (plainMain.name = busyMain.name ∧
      (plainMain.relevant fooScope).map (·.view fooScope) =
        (busyMain.relevant fooScope).map (·.view fooScope) ∧
      (plainMain.annotations.filterMap fun a => (a.position? fooScope).bind a.annotAt?) =
        (busyMain.annotations.filterMap fun a => (a.position? fooScope).bind a.annotAt?) ∧
      (emit {} busyMain fooScope "app").value = (emit {} plainMain fooScope "app").value ∧
      (emit ⟨none, []⟩ busyMain fooScope "app").value =
        (emit {} plainMain fooScope "app").value.presentedBy ⟨none, []⟩) ∧
    (barOverload.isMemberOf fooScope = false ∧ barOverload.isInitializerOf fooScope = false ∧
      (∃ first ∈ plainMain.methods, first.name = "initializeScopes") ∧
      (emit {} { plainMain with methods := plainMain.methods ++ [barOverload] } fooScope
          "app").value =
        (emit {} { plainMain with methods := plainMain.methods ++ [] } fooScope "app").value) ∧
    ((busyMain.relevant fooScope).map (·.view fooScope) =
        plainMain.methods.map (·.view fooScope) ∧
      (emit {} { plainMain with methods := busyMain.relevant fooScope } fooScope "app").value =
        (emit {} plainMain fooScope "app").value) := by
  have hviews : (plainMain.relevant fooScope).map (·.view fooScope) =
      (busyMain.relevant fooScope).map (·.view fooScope) := by decide
  have hannots : (plainMain.annotations.filterMap fun a => (a.position? fooScope).bind a.annotAt?) =
      (busyMain.annotations.filterMap fun a => (a.position? fooScope).bind a.annotAt?) := by
    decide +kernel
  have hfirst : ∃ first ∈ plainMain.methods, first.name = "initializeScopes" := by decide
  have hrelevant : (busyMain.relevant fooScope).map (·.view fooScope) =
      plainMain.methods.map (·.view fooScope) := by decide
  obtain ⟨hsame, hinsert, hannotate⟩ := locality_emit fooScope "app"
  exact ⟨⟨rfl, hviews, hannots, hsame plainMain busyMain rfl hviews hannots {} ⟨none, []⟩⟩,
    ⟨by decide, by decide, hfirst, hinsert {} plainMain plainMain.methods [] barOverload
      (by decide) (by decide) fun _ => hfirst⟩,
    hrelevant, hannotate {} plainMain (busyMain.relevant fooScope) hrelevant⟩

end Presentation

end ScopeGen
