import Mathlib.Order.WellFounded
import ScopeGen.Proofs.Emission.Locality

/-!
# Proofs/Emission/Recursion — what the overrides of a generated class call on the object

    initializeScopes ──▸ initializers of the scope ──▸ superclass

A forwarded method calls the superclass only, so all calls on the object come from the override of
`initializeScopes` (`Presentation.calls_emit_iff`).  It calls the initializers by their names, and
nothing keeps `initializeScopes` itself from being one: then the override calls itself, and its run
does not end.  In every other class each chain of calls ends with the superclass
(`Presentation.recursion_emit`).
-/

namespace ScopeGen

/-- An override of the one name calls the other name on the object. -/
def Subclass.Calls (sub : Subclass) (caller callee : String) : Prop :=
  ∃ o ∈ sub.methods, o.signature.name = caller ∧ .self callee ∈ o.body

namespace ClassDecl

variable {cls : ClassDecl} {scope : Scope}

theorem name_of_method? {name : String} {m : Method} (h : cls.method? name = some m) :
    m.name = name := by
  simpa using List.find?_some h

/-- **The override of `initializeScopes` calls the initializers**, whatever they are called. -/
theorem self_mem_aggregateOf_iff {first : Method} {name : String} :
    .self name ∈ (cls.aggregateOf scope first).body ↔
      ∃ m ∈ cls.methods, m.name = name ∧ m.isInitializerOf scope := by
  simp only [aggregateOf, List.mem_cons, reduceCtorEq, false_or, List.mem_map, List.mem_filter,
    Call.self.injEq]
  constructor
  · rintro ⟨m, ⟨hm, hinit⟩, hname⟩
    exact ⟨m, hm, hname, hinit⟩
  · rintro ⟨m, hm, hname, hinit⟩
    exact ⟨m, ⟨hm, hinit⟩, hname⟩

/-- It calls a name once for each initializer of that name. -/
theorem count_self_aggregateOf (cls : ClassDecl) (scope : Scope) (first : Method) (name : String) :
    (cls.aggregateOf scope first).body.count (.self name) =
      cls.methods.countP fun m => m.name == name && m.isInitializerOf scope := by
  rw [List.count_eq_countP, aggregateOf, List.countP_cons_of_neg (by simp), List.countP_map,
    List.countP_filter]
  exact List.countP_congr fun m _ => by simp

end ClassDecl

namespace Presentation

variable (presentation : Presentation) (cls : ClassDecl) (scope : Scope) (package : String)

theorem mem_methodsWithRole_aggregateInitializer_iff {o : Override} :
    o ∈ (presentation.emit cls scope package).value.methodsWithRole .aggregateInitializer ↔
      ∃ first, cls.method? initializeScopes = some first ∧ cls.aggregateOf scope first = o := by
  simp only [methodsWithRole_aggregateInitializer, List.mem_map, Option.mem_toList]

/-- **Only the override of `initializeScopes` calls the object**: the body of a forwarded method is
a call to the superclass. -/
theorem mem_aggregateInitializer_of_self_mem {o : Override} {name : String}
    (ho : o ∈ (presentation.emit cls scope package).value.methods) (hself : .self name ∈ o.body) :
    o ∈ (presentation.emit cls scope package).value.methodsWithRole .aggregateInitializer := by
  have hforward : ∀ {role ms}, o ∉ forwards role ms := fun h => by
    rw [body_of_mem_forwards h] at hself
    simp at hself
  refine List.mem_filter.mpr ⟨ho, ?_⟩
  rw [methods_emit, List.mem_append] at ho
  obtain h | ⟨first, rfl⟩ := ClassDecl.mem_initializers (ho.resolve_right hforward)
  · exact absurd h hforward
  · rfl

/-- **The calls on the object**: from `initializeScopes`, when the class declares it, to each
initializer of the scope. -/
theorem calls_emit_iff {caller callee : String} :
    (presentation.emit cls scope package).value.Calls caller callee ↔
      caller = initializeScopes ∧ (∃ first, cls.method? initializeScopes = some first) ∧
        ∃ m ∈ cls.methods, m.name = callee ∧ m.isInitializerOf scope := by
  constructor
  · rintro ⟨o, ho, rfl, hself⟩
    have hrole := mem_aggregateInitializer_of_self_mem presentation cls scope package ho hself
    obtain ⟨first, hfirst, rfl⟩ :=
      (mem_methodsWithRole_aggregateInitializer_iff presentation cls scope package).mp hrole
    exact ⟨ClassDecl.name_of_method? hfirst, ⟨first, hfirst⟩,
      ClassDecl.self_mem_aggregateOf_iff.mp hself⟩
  · rintro ⟨rfl, ⟨first, hfirst⟩, hcallee⟩
    have hrole := (mem_methodsWithRole_aggregateInitializer_iff presentation cls scope package).mpr
      ⟨first, hfirst, rfl⟩
    exact ⟨_, List.mem_of_mem_filter hrole, ClassDecl.name_of_method? hfirst,
      ClassDecl.self_mem_aggregateOf_iff.mpr hcallee⟩

/-- An `initializeScopes` that is an initializer itself makes its override call itself. -/
theorem calls_emit_self_iff {name : String} :
    (presentation.emit cls scope package).value.Calls name name ↔ name = initializeScopes ∧
      ∃ m ∈ cls.methods, m.name = initializeScopes ∧ m.isInitializerOf scope := by
  rw [calls_emit_iff]
  constructor
  · rintro ⟨rfl, -, hmarked⟩
    exact ⟨rfl, hmarked⟩
  · rintro ⟨rfl, m, hm, hname, hinit⟩
    refine ⟨rfl, Option.isSome_iff_exists.mp ?_, m, hm, hname, hinit⟩
    exact List.find?_isSome.mpr ⟨m, hm, by simpa using hname⟩

/-- **Chains of calls on the object end, unless there is a call from a method to itself.** -/
theorem wellFounded_calls_emit_iff :
    WellFounded (fun callee caller =>
        (presentation.emit cls scope package).value.Calls caller callee) ↔
      ¬∃ m ∈ cls.methods, m.name = initializeScopes ∧ m.isInitializerOf scope := by
  constructor
  · intro hwf hmarked
    exact hwf.irrefl.irrefl initializeScopes
      ((calls_emit_self_iff presentation cls scope package).mpr ⟨rfl, hmarked⟩)
  · intro hmarked
    -- an initializer is not `initializeScopes`, so its override calls nothing on the object
    have hcallee : ∀ caller callee,
        (presentation.emit cls scope package).value.Calls caller callee →
          callee ≠ initializeScopes := by
      rintro caller _ hcall rfl
      exact hmarked ((calls_emit_iff presentation cls scope package).mp hcall).2.2
    refine ⟨fun caller => .intro caller fun callee hcall => .intro callee fun next hnext => ?_⟩
    exact absurd ((calls_emit_iff presentation cls scope package).mp hnext).1
      (hcallee caller callee hcall)

/-- **An override calls itself only as that of an `initializeScopes` which is an initializer
itself.**  An override whose body calls its own name is the one of `initializeScopes`, and is so
exactly when some method of that name, the first declaration or another, initializes the scope; its
body has as many such calls as there are such methods.  Without them every chain of calls on the
object ends. -/
theorem recursion_emit (presentation : Presentation) (cls : ClassDecl) (scope : Scope)
    (package : String) :
    (∀ o : Override, o ∈ (presentation.emit cls scope package).value.methods ∧
        .self o.signature.name ∈ o.body ↔
      o ∈ (presentation.emit cls scope package).value.methodsWithRole .aggregateInitializer ∧
        ∃ m ∈ cls.methods, m.name = "initializeScopes" ∧ m.isInitializerOf scope) ∧
    ((presentation.emit cls scope package).value.methodsWithRole .aggregateInitializer).map
        (fun o => o.body.count (.self "initializeScopes")) =
      (cls.method? "initializeScopes").toList.map (fun _ => cls.methods.countP fun m =>
        m.name == "initializeScopes" && m.isInitializerOf scope) ∧
    (WellFounded (fun callee caller =>
        (presentation.emit cls scope package).value.Calls caller callee) ↔
      ¬∃ m ∈ cls.methods, m.name = "initializeScopes" ∧ m.isInitializerOf scope) := by
  refine ⟨fun o => ⟨?_, ?_⟩, ?_, wellFounded_calls_emit_iff presentation cls scope package⟩
  · rintro ⟨ho, hself⟩
    exact ⟨mem_aggregateInitializer_of_self_mem presentation cls scope package ho hself,
      ((calls_emit_self_iff presentation cls scope package).mp ⟨o, ho, rfl, hself⟩).2⟩
  · rintro ⟨hrole, hmarked⟩
    refine ⟨List.mem_of_mem_filter hrole, ?_⟩
    obtain ⟨first, hfirst, rfl⟩ :=
      (mem_methodsWithRole_aggregateInitializer_iff presentation cls scope package).mp hrole
    have hname : first.signature.name = initializeScopes := ClassDecl.name_of_method? hfirst
    exact ClassDecl.self_mem_aggregateOf_iff.mpr (hname ▸ hmarked)
  · rw [methodsWithRole_aggregateInitializer, List.map_map]
    exact List.map_congr_left fun first _ => ClassDecl.count_self_aggregateOf cls scope first _

/-- A class that marks its `initializeScopes` as an initializer. -/
def loopingMain : ClassDecl where
  name := "Main"
  methods := [⟨{ name := "initializeScopes" }, [⟨"InitFooScope", [], .initializer fooScope⟩]⟩]

/-- **An override may call itself.** -/
theorem reenters_loopingMain :
    ¬∀ o ∈ (emit {} loopingMain fooScope "app").value.methods,
      .self o.signature.name ∉ o.body := by
  decide

end Presentation

end ScopeGen
