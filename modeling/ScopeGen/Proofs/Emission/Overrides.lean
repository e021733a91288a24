import ScopeGen.Emission

/-!
# Proofs/Emission/Overrides — which methods a generated class overrides

The initializers are forwarded in one pass that interrupts itself once, at the first declaration of
`initializeScopes`.  As long as that declaration is ahead (`initializersFrom_append`) and after it
(`initializersFrom_true`) the pass is a plain `collect`, so a class that declares the method is
overridden in three stretches (`initializers_eq`), and any other in one.  The members of the scope
come after all of them.
-/

namespace ScopeGen

/-! ## Forwarding a list of methods -/

/-- One override in the same role for each of the methods. -/
def forwards (role : Role) (ms : List Method) : List Override :=
  ms.map fun m => .forwarding m.signature role

@[simp] theorem forwards_nil (role : Role) : forwards role [] = [] := rfl

@[simp] theorem forwards_append (role : Role) (ms ms' : List Method) :
    forwards role (ms ++ ms') = forwards role ms ++ forwards role ms' := List.map_append

@[simp] theorem length_forwards (role : Role) (ms : List Method) :
    (forwards role ms).length = ms.length := List.length_map _

theorem mem_forwards {role : Role} {ms : List Method} {o : Override} :
    o ∈ forwards role ms ↔ ∃ m ∈ ms, Override.forwarding m.signature role = o := List.mem_map

/-- An override that forwards a method keeps its signature. -/
@[simp] theorem map_signature_forwards (role : Role) (ms : List Method) :
    (forwards role ms).map (·.signature) = ms.map (·.signature) := by
  rw [forwards, List.map_map]
  rfl

/-- All forwards have the role they are made for. -/
theorem role_of_mem_forwards {role : Role} {ms : List Method} {o : Override}
    (h : o ∈ forwards role ms) : o.role = role := by
  obtain ⟨m, -, rfl⟩ := mem_forwards.mp h
  rfl

/-- A forward calls what it overrides, and nothing else. -/
theorem body_of_mem_forwards {role : Role} {ms : List Method} {o : Override}
    (h : o ∈ forwards role ms) : o.body = [.super o.signature.name] := by
  obtain ⟨m, -, rfl⟩ := mem_forwards.mp h
  rfl

/-- A question about the role keeps all the overrides or none. -/
theorem filter_forwards (p : Role → Bool) (role : Role) (ms : List Method) :
    (forwards role ms).filter (p ·.role) = if p role then forwards role ms else [] := by
  split
  case isTrue h =>
    exact List.filter_eq_self.mpr fun o ho => by rw [role_of_mem_forwards ho, h]
  case isFalse h =>
    exact List.filter_eq_nil_iff.mpr fun o ho => by rw [role_of_mem_forwards ho]; exact h

@[simp] theorem filter_role_forwards (role r : Role) (ms : List Method) :
    (forwards role ms).filter (·.role == r) = if role = r then forwards role ms else [] := by
  simpa using filter_forwards (· == r) role ms

@[simp] theorem filter_role_ne_forwards (role r : Role) (ms : List Method) :
    (forwards role ms).filter (·.role != r) = if role = r then [] else forwards role ms := by
  simpa using filter_forwards (· != r) role ms

/-- The calls that name the forwarded methods. -/
theorem map_self_forwards (role : Role) (ms : List Method) :
    ((forwards role ms).map fun o => Call.self o.signature.name) =
      ms.map fun m => Call.self m.name := by
  rw [forwards, List.map_map]
  rfl

/-- So an override in another role is not found among them. -/
theorem findIdx?_role_forwards {role r : Role} (h : role ≠ r) (ms : List Method) :
    (forwards role ms).findIdx? (·.role == r) = none :=
  List.findIdx?_eq_none_iff.mpr fun o ho => by simp [role_of_mem_forwards ho, h]

namespace ClassDecl

variable {cls : ClassDecl} {scope : Scope}

/-! ## One pass over the methods -/

/-- **The initializers among the methods are forwarded, each once.** -/
theorem value_collect_initializerForward (scope : Scope) (ms : List Method) :
    (Traced.collect (initializerForward scope) ms).value =
      forwards .initializerForward (ms.filter (·.isInitializerOf scope)) :=
  Traced.value_collect_ite (Method.isInitializerOf · scope) (Event.initializer ·.name scope)
    (Override.forwarding ·.signature .initializerForward) ms

/-- So are the members. -/
theorem value_collect_scopedForward (scope : Scope) (ms : List Method) :
    (Traced.collect (scopedForward scope) ms).value =
      forwards .scopedForward (ms.filter (·.isMemberOf scope)) :=
  Traced.value_collect_ite (Method.isMemberOf · scope) (Event.scoped ·.name scope)
    (Override.forwarding ·.signature .scopedForward) ms

/-- **Each forwarded initializer is told.** -/
theorem events_collect_initializerForward (scope : Scope) (ms : List Method) :
    (Traced.collect (initializerForward scope) ms).events =
      (ms.filter (·.isInitializerOf scope)).map (.initializer ·.name scope) :=
  Traced.events_collect_ite (Method.isInitializerOf · scope) (Event.initializer ·.name scope)
    (Override.forwarding ·.signature .initializerForward) ms

/-- So is each forwarded member. -/
theorem events_collect_scopedForward (scope : Scope) (ms : List Method) :
    (Traced.collect (scopedForward scope) ms).events =
      (ms.filter (·.isMemberOf scope)).map (.scoped ·.name scope) :=
  Traced.events_collect_ite (Method.isMemberOf · scope) (Event.scoped ·.name scope)
    (Override.forwarding ·.signature .scopedForward) ms

/-- Once `initializeScopes` is overridden, the rest is forwarded only. -/
theorem initializersFrom_true (ms : List Method) :
    cls.initializersFrom scope true ms = Traced.collect (initializerForward scope) ms := by
  induction ms with
  | nil => rfl
  | cons m rest ih => simp [initializersFrom, Traced.collect, ih]

/-- **Up to the first declaration of `initializeScopes`, methods are forwarded only.** -/
theorem initializersFrom_append {before : List Method} (rest : List Method)
    (h : ∀ m ∈ before, m.name ≠ initializeScopes) (aggregated : Bool) :
    cls.initializersFrom scope aggregated (before ++ rest) = (do
      return (← Traced.collect (initializerForward scope) before) ++
        (← cls.initializersFrom scope aggregated rest)) := by
  induction before with
  | nil => simp [Traced.collect]
  | cons m before ih =>
    have hm : (!aggregated && m.name == initializeScopes) = false := by
      simp [h m List.mem_cons_self]
    have ih := ih fun m' hm' => h m' (List.mem_cons_of_mem m hm')
    refine Traced.ext ?_ ?_ <;> simp [initializersFrom, Traced.collect, hm, ih]

/-- The pass over a class that does not declare `initializeScopes`. -/
theorem initializers_of_forall_ne (h : ∀ m ∈ cls.methods, m.name ≠ initializeScopes) :
    cls.initializers scope = Traced.collect (initializerForward scope) cls.methods := by
  have happend := @initializersFrom_append cls scope cls.methods [] h false
  rw [List.append_nil] at happend
  rw [initializers, happend]
  simp [initializersFrom]

/-- **The pass over a class that declares `initializeScopes` first as `first`**: its override comes
right after that of `first` itself, if that is an initializer. -/
theorem initializers_of_split {before after : List Method} {first : Method}
    (hsplit : cls.methods = before ++ first :: after)
    (hbefore : ∀ m ∈ before, m.name ≠ initializeScopes) (hfirst : first.name = initializeScopes) :
    cls.initializers scope = (do
      let forwarded ← Traced.collect (initializerForward scope) (before ++ [first])
      let aggregate ← cls.aggregate scope first
      return forwarded ++ aggregate ++
        (← Traced.collect (initializerForward scope) after)) := by
  rw [initializers, hsplit, initializersFrom_append _ hbefore]
  refine Traced.ext ?_ ?_ <;> simp [initializersFrom, initializersFrom_true, hfirst]

/-! ## The overrides of a generated class -/

/-- The override of `initializeScopes`, declared as `first`. -/
def aggregateOf (cls : ClassDecl) (scope : Scope) (first : Method) : Override :=
  ⟨first.signature, .aggregateInitializer, .super initializeScopes ::
    (cls.methods.filter (·.isInitializerOf scope)).map fun m => .self m.name⟩

/-- Behind how many methods the override of `initializeScopes` stands: those up to the first
declaration of that name, or all of them. -/
def aggregateCut (cls : ClassDecl) : Nat := cls.methods.findIdx (·.name == initializeScopes) + 1

/-- **The pass in three stretches**: the initializers up to the first declaration of
`initializeScopes`, its override if there is such a declaration, and the initializers behind it. -/
theorem initializers_eq (cls : ClassDecl) (scope : Scope) :
    cls.initializers scope = (do
      let before ← Traced.collect (initializerForward scope) (cls.methods.take cls.aggregateCut)
      let aggregate ← Traced.collect (cls.aggregate scope) (cls.method? initializeScopes).toList
      return before ++ aggregate ++
        (← Traced.collect (initializerForward scope) (cls.methods.drop cls.aggregateCut))) := by
  cases hfirst : cls.method? initializeScopes with
  | none =>
    have hne : ∀ m ∈ cls.methods, m.name ≠ initializeScopes := fun m hm => by
      simpa using List.find?_eq_none.mp hfirst m hm
    have hcut : cls.methods.length ≤ cls.aggregateCut := by
      rw [aggregateCut, List.findIdx_eq_length_of_false fun m hm => by simpa using hne m hm]
      exact Nat.le_succ _
    rw [initializers_of_forall_ne hne, List.take_of_length_le hcut, List.drop_of_length_le hcut]
    refine Traced.ext ?_ ?_ <;> simp
  | some first =>
    obtain ⟨hname, before, after, hsplit, hbefore⟩ := List.find?_eq_some_iff_append.mp hfirst
    replace hbefore : ∀ m ∈ before, m.name ≠ initializeScopes := fun m hm => by
      simpa using hbefore m hm
    have hcut : cls.aggregateCut = (before ++ [first]).length := by
      have hfind : before.findIdx (·.name == initializeScopes) = before.length :=
        List.findIdx_eq_length_of_false fun m hm => by simpa using hbefore m hm
      rw [aggregateCut, hsplit, List.findIdx_append, hfind]
      simp [List.findIdx_cons, hname]
    have htake : cls.methods.take cls.aggregateCut = before ++ [first] := by
      rw [hsplit, List.append_cons, hcut, List.take_left]
    have hdrop : cls.methods.drop cls.aggregateCut = after := by
      rw [hsplit, List.append_cons, hcut, List.drop_left]
    rw [initializers_of_split hsplit hbefore (by simpa using hname), htake, hdrop]
    refine Traced.ext ?_ ?_ <;> simp [Traced.collect]

/-- **The initializers are forwarded in order of declaration**, and the override of
`initializeScopes` stands where the class declares that method. -/
theorem value_initializers (cls : ClassDecl) (scope : Scope) :
    (cls.initializers scope).value =
      forwards .initializerForward
          ((cls.methods.take cls.aggregateCut).filter (·.isInitializerOf scope)) ++
        (cls.method? initializeScopes).toList.map (cls.aggregateOf scope) ++
        forwards .initializerForward
          ((cls.methods.drop cls.aggregateCut).filter (·.isInitializerOf scope)) := by
  have haggregate :
      (Traced.collect (cls.aggregate scope) (cls.method? initializeScopes).toList).value =
        (cls.method? initializeScopes).toList.map (cls.aggregateOf scope) := by
    cases cls.method? initializeScopes <;> rfl
  rw [initializers_eq, ← haggregate, ← value_collect_initializerForward,
    ← value_collect_initializerForward]
  rfl

/-- The pass tells of each initializer where it is forwarded, and of the override of
`initializeScopes` with the number of initializers it calls. -/
theorem events_initializers (cls : ClassDecl) (scope : Scope) :
    (cls.initializers scope).events =
      ((cls.methods.take cls.aggregateCut).filter (·.isInitializerOf scope)).map
          (.initializer ·.name scope) ++
        (cls.method? initializeScopes).toList.map (fun _ =>
          .aggregate (cls.methods.countP (·.isInitializerOf scope))) ++
        ((cls.methods.drop cls.aggregateCut).filter (·.isInitializerOf scope)).map
          (.initializer ·.name scope) := by
  have haggregate :
      (Traced.collect (cls.aggregate scope) (cls.method? initializeScopes).toList).events =
        (cls.method? initializeScopes).toList.map fun _ =>
          .aggregate (cls.methods.countP (·.isInitializerOf scope)) := by
    cases cls.method? initializeScopes <;>
      simp [Traced.collect, aggregate, List.countP_eq_length_filter]
  rw [initializers_eq, ← haggregate, ← events_collect_initializerForward,
    ← events_collect_initializerForward]
  simp only [Traced.events_bind, Traced.events_pure, List.append_nil, List.append_assoc]

/-- **The override of `initializeScopes` stands behind the initializers declared no later than
it.** -/
theorem findIdx?_initializers (cls : ClassDecl) (scope : Scope) :
    (cls.initializers scope).value.findIdx? (·.role == .aggregateInitializer) =
      (cls.methods.findIdx? (·.name == initializeScopes)).map fun i =>
        (cls.methods.take (i + 1)).countP (·.isInitializerOf scope) := by
  rw [value_initializers, List.findIdx?_append, List.findIdx?_append,
    findIdx?_role_forwards (by decide), findIdx?_role_forwards (by decide), method?,
    List.find?_eq_bind_findIdx?_getElem?]
  cases hfirst : cls.methods.findIdx? (·.name == initializeScopes) with
  | none => rfl
  | some i =>
    obtain ⟨hi, hcut⟩ := List.findIdx?_eq_some_iff_findIdx_eq.mp hfirst
    simp [aggregateCut, aggregateOf, hcut, hi, List.countP_eq_length_filter]

/-- An override that is made in the pass is the forward of an initializer or that of
`initializeScopes`. -/
theorem mem_initializers {o : Override} (h : o ∈ (cls.initializers scope).value) :
    o ∈ forwards .initializerForward (cls.methods.filter (·.isInitializerOf scope)) ∨
      ∃ first, o = cls.aggregateOf scope first := by
  rw [value_initializers, List.mem_append, List.mem_append] at h
  rcases h with (h | h) | h
  · obtain ⟨m, hm, rfl⟩ := mem_forwards.mp h
    exact Or.inl (List.mem_map_of_mem (((List.take_sublist _ _).filter _).mem hm))
  · obtain ⟨first, -, rfl⟩ := List.mem_map.mp h
    exact Or.inr ⟨first, rfl⟩
  · obtain ⟨m, hm, rfl⟩ := mem_forwards.mp h
    exact Or.inl (List.mem_map_of_mem (((List.drop_sublist _ _).filter _).mem hm))

/-- Of the initializers' overrides, the one of `initializeScopes` is alone in its role. -/
theorem filter_role_aggregateOf (cls : ClassDecl) (scope : Scope) (r : Role)
    (first? : Option Method) :
    (first?.toList.map (cls.aggregateOf scope)).filter (·.role == r) =
      if r = .aggregateInitializer then first?.toList.map (cls.aggregateOf scope) else [] := by
  cases first? <;> cases r <;> rfl

end ClassDecl

/-! ## The overrides of a generated class -/

/-- **What a subclass overrides of a class for a scope**, in which order and how often. -/
structure Subclass.Overrides (sub : Subclass) (cls : ClassDecl) (scope : Scope) : Prop where
  /-- the members of the scope come last -/
  methods_eq : sub.methods =
    sub.methods.filter (·.role != .scopedForward) ++ sub.methodsWithRole .scopedForward
  /-- each member stands once, in order of declaration -/
  scopedForward : (sub.methodsWithRole .scopedForward).map (·.signature) =
    (cls.methods.filter (·.isMemberOf scope)).map (·.signature)
  /-- so do the initializers -/
  initializerForward : (sub.methodsWithRole .initializerForward).map (·.signature) =
    (cls.methods.filter (·.isInitializerOf scope)).map (·.signature)
  /-- an override of a member or an initializer only calls what it overrides -/
  body_eq : ∀ o ∈ sub.methods, o.role = .scopedForward ∨ o.role = .initializerForward →
    o.body = [.super o.signature.name]
  /-- the method `initializeScopes` is overridden when it is declared, as it is declared first, by
  calls to the superclass and then to all that is forwarded as an initializer -/
  aggregateInitializer : sub.methodsWithRole .aggregateInitializer =
    (cls.method? "initializeScopes").toList.map fun first =>
      ⟨first.signature, .aggregateInitializer, .super "initializeScopes" ::
        (sub.methodsWithRole .initializerForward).map fun o => .self o.signature.name⟩
  /-- that override stands behind the initializers declared no later than `initializeScopes` -/
  findIdx?_aggregate : sub.methods.findIdx? (·.role == .aggregateInitializer) =
    (cls.methods.findIdx? (·.name == "initializeScopes")).map fun i =>
      (cls.methods.take (i + 1)).countP (·.isInitializerOf scope)

namespace Presentation

variable (presentation : Presentation) (cls : ClassDecl) (scope : Scope) (package : String)

/-- The members of the scope come after everything else. -/
theorem methods_emit :
    (presentation.emit cls scope package).value.methods =
      (cls.initializers scope).value ++
        forwards .scopedForward (cls.methods.filter (·.isMemberOf scope)) := by
  rw [← ClassDecl.value_collect_scopedForward]
  rfl

/-- The events of an emission: those of the annotations, of the initializers and of the members,
between a first and a last one. -/
theorem events_emit :
    (presentation.emit cls scope package).events =
      .emitting cls.name scope (scope.classNameFor cls.name) ::
        ((Traced.collect (cls.scopeAnnot scope) cls.annotations).events ++
          (cls.initializers scope).events ++
          (cls.methods.filter (·.isMemberOf scope)).map (.scoped ·.name scope) ++
          [.emitted (scope.classNameFor cls.name)
            (presentation.emit cls scope package).value.annotations.length
            (presentation.emit cls scope package).value.methods.length]) := by
  rw [← ClassDecl.events_collect_scopedForward]
  simp [emit]

/-- **Each role has the overrides of the methods that call for it**, in order of declaration. -/
theorem methodsWithRole_scopedForward :
    (presentation.emit cls scope package).value.methodsWithRole .scopedForward =
      forwards .scopedForward (cls.methods.filter (·.isMemberOf scope)) := by
  simp [Subclass.methodsWithRole, methods_emit, ClassDecl.value_initializers,
    ClassDecl.filter_role_aggregateOf]

theorem methodsWithRole_initializerForward :
    (presentation.emit cls scope package).value.methodsWithRole .initializerForward =
      forwards .initializerForward (cls.methods.filter (·.isInitializerOf scope)) := by
  rw [← congrArg (fun ms => forwards .initializerForward (ms.filter (·.isInitializerOf scope)))
      (List.take_append_drop cls.aggregateCut cls.methods), List.filter_append, forwards_append]
  simp [Subclass.methodsWithRole, methods_emit, ClassDecl.value_initializers,
    ClassDecl.filter_role_aggregateOf]

/-- Only the first declaration of `initializeScopes` is overridden so. -/
theorem methodsWithRole_aggregateInitializer :
    (presentation.emit cls scope package).value.methodsWithRole .aggregateInitializer =
      (cls.method? initializeScopes).toList.map (cls.aggregateOf scope) := by
  simp [Subclass.methodsWithRole, methods_emit, ClassDecl.value_initializers,
    ClassDecl.filter_role_aggregateOf]

/-- What is no member's override is made before the members are looked at. -/
theorem filter_role_ne_scopedForward :
    (presentation.emit cls scope package).value.methods.filter (·.role != .scopedForward) =
      (cls.initializers scope).value := by
  rw [methods_emit, List.filter_append, filter_role_ne_forwards, if_pos rfl, List.append_nil,
    List.filter_eq_self]
  intro o ho
  rcases ClassDecl.mem_initializers ho with h | ⟨first, rfl⟩
  · rw [role_of_mem_forwards h]
    rfl
  · rfl

/-- **A generated class overrides what its scope asks for**: the initializers, `initializeScopes`
and the members, as they are declared. -/
theorem overrides_emit (presentation : Presentation) (cls : ClassDecl) (scope : Scope)
    (package : String) :
    Subclass.Overrides (presentation.emit cls scope package).value cls scope where
  methods_eq := by
    rw [filter_role_ne_scopedForward, methodsWithRole_scopedForward, methods_emit]
  scopedForward := by rw [methodsWithRole_scopedForward, map_signature_forwards]
  initializerForward := by rw [methodsWithRole_initializerForward, map_signature_forwards]
  body_eq := by
    intro o ho hrole
    rw [methods_emit, List.mem_append] at ho
    rcases ho with ho | ho
    · rcases ClassDecl.mem_initializers ho with h | ⟨first, rfl⟩
      · exact body_of_mem_forwards h
      · exact absurd hrole (by simp [ClassDecl.aggregateOf])
    · exact body_of_mem_forwards ho
  aggregateInitializer := by
    rw [methodsWithRole_aggregateInitializer, methodsWithRole_initializerForward,
      map_self_forwards]
    rfl
  findIdx?_aggregate := by
    rw [methods_emit, List.findIdx?_append, ClassDecl.findIdx?_initializers,
      findIdx?_role_forwards (by decide), Option.map_none, Option.or_none]
    rfl

end Presentation

end ScopeGen
