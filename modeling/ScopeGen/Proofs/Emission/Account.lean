import ScopeGen.Proofs.Emission.Correlation

/-!
# Proofs/Emission/Account — the events of an emission account for its result

    emitting · [what is copied, what is missing] · [what is overridden] · emitted

Whoever reads the events of an emission, their wording and their fields, knows which annotations the
subclass has and which methods it overrides in which role (`Subclass.AccountedBy`).  The pass over
the initializers tells of its overrides one by one (`map_override?_initializers`), although the
event of `initializeScopes` counts initializers that are told only later.
-/

namespace ScopeGen

/-! ## Reading an event -/

namespace Event

/-- The text in a field. -/
def text? (e : Event) (field : String) : Option String :=
  match e.fields.lookup field with
  | some (.text s) => some s
  | _ => none

/-- The number in a field. -/
def count? (e : Event) (field : String) : Option Nat :=
  match e.fields.lookup field with
  | some (.count n) => some n
  | _ => none

/-- The annotation that an event says is copied. -/
def copied? (e : Event) : Option String :=
  if e.message = "Copying scope annotation" then e.text? "annotation" else none

/-- The role and the name of the override that an event tells of. -/
def override? (e : Event) : Option (Role × String) :=
  if e.message = "Forwarding initializer" then
    (e.text? "method").map (.initializerForward, ·)
  else if e.message = "Aggregating scope initializers" then
    some (.aggregateInitializer, "initializeScopes")
  else if e.message = "Forwarding scoped method" then
    (e.text? "method").map (.scopedForward, ·)
  else
    none

/-- The event tells of an initializer, or of the override of `initializeScopes`. -/
def tellsOfInitializer (e : Event) : Bool :=
  e.message == "Forwarding initializer" || e.message == "Aggregating scope initializers"

theorem tellsOfInitializer_iff {e : Event} :
    e.tellsOfInitializer ↔ (∃ method scope, e = .initializer method scope) ∨
      ∃ calls, e = .aggregate calls := by
  cases e <;> simp [tellsOfInitializer, message]

@[simp] theorem override?_initializer (method : String) (scope : Scope) :
    (initializer method scope).override? = some (.initializerForward, method) := rfl

@[simp] theorem override?_aggregate (calls : Nat) :
    (aggregate calls).override? = some (.aggregateInitializer, initializeScopes) := rfl

@[simp] theorem override?_scoped (method : String) (scope : Scope) :
    (Event.scoped method scope).override? = some (.scopedForward, method) := rfl

end Event

/-- What is told of an override. -/
def Override.told (o : Override) : Option (Role × String) := some (o.role, o.signature.name)

/-- What is told of forwards: their role, and the names of the methods. -/
theorem map_told_forwards (role : Role) (ms : List Method) :
    (forwards role ms).map Override.told = ms.map fun m => some (role, m.name) := by
  rw [forwards, List.map_map]
  rfl

/-! ## What the passes tell -/

namespace ClassDecl

variable (cls : ClassDecl) (scope : Scope)

/-- **The pass over the initializers tells of what it leaves**, one override after another. -/
theorem map_override?_initializers :
    (cls.initializers scope).events.map Event.override? =
      (cls.initializers scope).value.map Override.told := by
  have haggregate : (cls.method? initializeScopes).toList.map (fun _ =>
        (Event.aggregate (cls.methods.countP (·.isInitializerOf scope))).override?) =
      (cls.method? initializeScopes).toList.map fun first =>
        (cls.aggregateOf scope first).told := by
    refine List.map_congr_left fun first hfirst => ?_
    have hname : first.name = initializeScopes := by
      simpa using List.find?_some (Option.mem_toList.mp hfirst)
    rw [Event.override?_aggregate, ← hname]
    rfl
  rw [events_initializers, value_initializers]
  simp only [List.map_append, List.map_map, map_told_forwards]
  exact congrArg₂ (· ++ ·) (congrArg₂ (· ++ ·) rfl haggregate) rfl

/-- As many events say that an initializer is forwarded as there are initializers. -/
theorem countP_initializers :
    (cls.initializers scope).events.countP (·.message == "Forwarding initializer") =
      cls.methods.countP (·.isInitializerOf scope) := by
  have hforwards : ∀ ms : List Method,
      (ms.map (Event.initializer ·.name scope)).countP (·.message == "Forwarding initializer") =
        ms.length := fun ms => by
    rw [List.countP_map]
    exact List.countP_eq_length.mpr fun m _ => by simp [Event.message]
  have haggregate : ((cls.method? initializeScopes).toList.map fun _ =>
        Event.aggregate (cls.methods.countP (·.isInitializerOf scope))).countP
          (·.message == "Forwarding initializer") = 0 :=
    List.countP_eq_zero.mpr fun e he => by
      obtain ⟨first, -, rfl⟩ := List.mem_map.mp he
      simp [Event.message]
  rw [events_initializers, List.countP_append, List.countP_append, hforwards, haggregate, hforwards,
    Nat.add_zero, ← List.countP_eq_length_filter, ← List.countP_eq_length_filter,
    ← List.countP_append, List.take_append_drop]

end ClassDecl

/-! ## The account -/

/-- **The events account for the subclass** that is generated of a class for a scope. -/
structure Subclass.AccountedBy (sub : Subclass) (cls : ClassDecl) (scope : Scope)
    (events : List Event) : Prop where
  /-- between a first event and a last one, which counts what the subclass has, the annotations are
  told of and then the overrides, all in order -/
  split : ∃ annots overrides : List Event,
    events = .emitting cls.name scope sub.name :: (annots ++ overrides) ++
      [.emitted sub.name sub.annotations.length sub.methods.length] ∧
    (∀ e ∈ annots, ∃ annot,
      (e.level, e.message, e.fields) = (.trace, "Copying scope annotation",
        [("class", .text cls.name), ("scope", .text scope.name), ("annotation", .text annot)]) ∨
      ∃ position, (e.level, e.message, e.fields) =
        (.warn, "No annotation in `values` at the position of the scope, skipping",
          [("class", .text cls.name), ("scope", .text scope.name), ("annotation", .text annot),
            ("position", .count position)])) ∧
    overrides.map Event.override? = sub.methods.map fun o => some (o.role, o.signature.name)
  /-- the first event reads so -/
  first : events.head?.map (fun e => (e.level, e.message, e.fields)) =
    some (.debug, "Emitting scope class",
      [("class", .text cls.name), ("scope", .text scope.name), ("generated", .text sub.name)])
  /-- and the last one so -/
  last : events.getLast?.map (fun e => (e.level, e.message, e.fields)) =
    some (.debug, "Emitted scope class",
      [("generated", .text sub.name), ("annotations", .count sub.annotations.length),
        ("methods", .count sub.methods.length)])
  /-- the annotations that are said to be copied are those of the subclass, in order -/
  copied : events.filterMap Event.copied? = sub.annotations.map (·.name)
  /-- where `initializeScopes` is told of, the calls are counted that its override makes besides
  that to the superclass, and they are as many as there are forwarded initializers -/
  calls : ∀ e ∈ events, e.message = "Aggregating scope initializers" →
    ∃ o, sub.methodsWithRole .aggregateInitializer = [o] ∧
      e.count? "calls" = some (events.countP (·.message == "Forwarding initializer")) ∧
      e.count? "calls" = some (o.body.length - 1)

namespace Presentation

variable (presentation : Presentation) (cls : ClassDecl) (scope : Scope) (package : String)

/-- What is told of the overrides: of the initializers, and then of the members. -/
theorem map_override?_emit :
    ((cls.initializers scope).events ++ (cls.methods.filter (Method.isMemberOf · scope)).map
        (Event.scoped ·.name scope)).map Event.override? =
      (presentation.emit cls scope package).value.methods.map Override.told := by
  rw [methods_emit, List.map_append, List.map_append, ClassDecl.map_override?_initializers,
    map_told_forwards, List.map_map]
  rfl

/-- **What an emission tells of initializers is what the pass over them tells.** -/
theorem filter_tellsOfInitializer_emit :
    (presentation.emit cls scope package).events.filter Event.tellsOfInitializer =
      (cls.initializers scope).events := by
  have hannots : (cls.annotations.filterMap (cls.annotEvent? scope)).filter
      Event.tellsOfInitializer = [] :=
    List.filter_eq_nil_iff.mpr fun e he => by
      obtain ⟨a, -, ha⟩ := List.mem_filterMap.mp he
      obtain ⟨_, _, _, rfl⟩ | ⟨_, _, _, _, rfl⟩ :=
        Event.tellsOfAnnot_iff.mp (ClassDecl.tellsOfAnnot_of_annotEvent? ha)
      all_goals simp [Event.tellsOfInitializer_iff]
  have hinitializers : (cls.initializers scope).events.filter Event.tellsOfInitializer =
      (cls.initializers scope).events :=
    List.filter_eq_self.mpr fun e he => by
      rw [ClassDecl.events_initializers] at he
      simp only [List.mem_append, List.mem_map] at he
      obtain (⟨m, -, rfl⟩ | ⟨first, -, rfl⟩) | ⟨m, -, rfl⟩ := he
      all_goals simp [Event.tellsOfInitializer_iff]
  have hscoped : ((cls.methods.filter (·.isMemberOf scope)).map (Event.scoped ·.name scope)).filter
      Event.tellsOfInitializer = [] :=
    List.filter_eq_nil_iff.mpr fun e he => by
      obtain ⟨m, -, rfl⟩ := List.mem_map.mp he
      simp [Event.tellsOfInitializer_iff]
  rw [events_emit, ClassDecl.events_collect_scopeAnnot,
    List.filter_cons_of_neg (by simp [Event.tellsOfInitializer_iff])]
  simp only [List.filter_append, hannots, hinitializers, hscoped, List.nil_append, List.append_nil]
  rw [List.filter_cons_of_neg (by simp [Event.tellsOfInitializer_iff]), List.filter_nil,
    List.append_nil]

theorem countP_emit :
    (presentation.emit cls scope package).events.countP (·.message == "Forwarding initializer") =
      cls.methods.countP (·.isInitializerOf scope) := by
  rw [← ClassDecl.countP_initializers,
    ← filter_tellsOfInitializer_emit presentation cls scope package, List.countP_filter]
  refine List.countP_congr fun e _ => ?_
  simp +contextual [Event.tellsOfInitializer]

/-- Where `initializeScopes` is told of, the class declares it, and all initializers are counted. -/
theorem eq_aggregate_of_mem_emit {e : Event}
    (he : e ∈ (presentation.emit cls scope package).events)
    (hmessage : e.message = "Aggregating scope initializers") :
    ∃ first, cls.method? initializeScopes = some first ∧
      e = .aggregate (cls.methods.countP (·.isInitializerOf scope)) := by
  have htells : e ∈ (cls.initializers scope).events := by
    rw [← filter_tellsOfInitializer_emit presentation cls scope package, List.mem_filter]
    exact ⟨he, by simp [Event.tellsOfInitializer, hmessage]⟩
  rw [ClassDecl.events_initializers] at htells
  simp only [List.mem_append, List.mem_map, Option.mem_toList] at htells
  obtain (⟨m, -, rfl⟩ | ⟨first, hfirst, rfl⟩) | ⟨m, -, rfl⟩ := htells
  · simp [Event.message] at hmessage
  · exact ⟨first, hfirst, rfl⟩
  · simp [Event.message] at hmessage

/-- **The events of an emission account for the subclass.** -/
theorem accountedBy_emit :
    (presentation.emit cls scope package).value.AccountedBy cls scope
      (presentation.emit cls scope package).events where
  split := by
    have hname : (presentation.emit cls scope package).value.name = scope.classNameFor cls.name :=
      rfl
    refine ⟨cls.annotations.filterMap (cls.annotEvent? scope), _, ?_, ?_,
      map_override?_emit presentation cls scope package⟩
    · rw [events_emit, ClassDecl.events_collect_scopeAnnot, hname]
      simp only [List.cons_append, List.append_assoc]
    · intro e he
      obtain ⟨a, -, ha⟩ := List.mem_filterMap.mp he
      obtain ⟨position, -, hcopy | hwarning⟩ := ClassDecl.annotEvent?_eq_some_iff.mp ha
      · obtain ⟨nested, -, -, hreads⟩ := hcopy
        exact ⟨nested.name, .inl hreads⟩
      · exact ⟨a.name, .inr ⟨position, hwarning.2.2⟩⟩
  first := by
    rw [events_emit]
    rfl
  last := by
    rw [events_emit, ← List.cons_append, List.getLast?_concat]
    rfl
  copied := by
    have hfilter : (presentation.emit cls scope package).events.filterMap Event.copied? =
        ((presentation.emit cls scope package).events.filter
          (·.message == "Copying scope annotation")).filterMap Event.copied? := by
      rw [List.filterMap_filter]
      refine List.filterMap_congr fun e _ => ?_
      rw [Event.copied?]
      split <;> simp_all
    rw [hfilter, filter_copying_emit, annotations_emit, List.filterMap_map, ← List.filterMap_eq_map]
    rfl
  calls := by
    intro e he hmessage
    obtain ⟨first, hfirst, rfl⟩ :=
      eq_aggregate_of_mem_emit presentation cls scope package he hmessage
    refine ⟨cls.aggregateOf scope first, ?_, ?_, ?_⟩
    · rw [methodsWithRole_aggregateInitializer, hfirst]
      rfl
    · rw [countP_emit]
      rfl
    · rw [ClassDecl.aggregateOf, List.length_cons, List.length_map, List.countP_eq_length_filter]
      rfl

/-- For all declared scopes: first what the list of scopes tells, then each emission in turn. -/
theorem events_emitDeclared :
    (presentation.emitDeclared cls package).events = cls.declaredScopes.events ++
      cls.declaredScopes.value.flatMap fun scope =>
        (presentation.emit cls scope package).events := by
  simp [emitDeclared]

theorem value_emitDeclared :
    (presentation.emitDeclared cls package).value =
      cls.declaredScopes.value.map fun scope => (presentation.emit cls scope package).value := by
  simp [emitDeclared, List.map_eq_flatMap]

/-- **Events are a faithful account**: of each emission, and of all emissions for the declared
scopes, whose accounts follow one another behind that of the list of scopes. -/
theorem account_emit (presentation : Presentation) (cls : ClassDecl) (package : String) :
    (∀ scope : Scope, (presentation.emit cls scope package).value.AccountedBy cls scope
      (presentation.emit cls scope package).events) ∧
    (presentation.emitDeclared cls package).value =
      cls.declaredScopes.value.map (fun scope => (presentation.emit cls scope package).value) ∧
    (presentation.emitDeclared cls package).events = cls.declaredScopes.events ++
      cls.declaredScopes.value.flatMap fun scope =>
        (presentation.emit cls scope package).events :=
  ⟨fun scope => accountedBy_emit presentation cls scope package,
    value_emitDeclared presentation cls package, events_emitDeclared presentation cls package⟩

end Presentation

end ScopeGen
