import ScopeGen.Proofs.Emission.Locality

/-!
# Proofs/Emission/Growth — what one method more adds to a generated class

    methods          ──▸  initializers  · initializeScopes ·  members
    methods ++ [m]   ──▸  initializers' · m · initializeScopes · members · m

A method that is declared last is forwarded last among the initializers, or among the members, or
both.  The override of `initializeScopes` comes with the first method of that name; one that is
there already calls the new initializer at its end (`Override.grow`), although the pass has gone by
the place where it is made.  So the pass over the longer class is the old pass with its overrides
grown (`ClassDecl.value_initializersFrom_withMethod`), and then one step for the new method.
-/

namespace ScopeGen

/-! ## An override in a longer class -/

namespace Override

/-- The override with one call more, on the object. -/
def withCall (o : Override) (name : String) : Override :=
  { o with body := o.body ++ [.self name] }

/-- The override when the class has the method `m` too: that of `initializeScopes` calls one more
initializer. -/
def grow (scope : Scope) (m : Method) (o : Override) : Override :=
  if o.role = .aggregateInitializer ∧ m.isInitializerOf scope then o.withCall m.name else o

variable {scope : Scope} {m : Method}

theorem grow_of_role_ne {o : Override} (h : o.role ≠ .aggregateInitializer) :
    o.grow scope m = o :=
  if_neg fun hrole => h hrole.1

/-- Nothing changes in an override but for one call at the end of that of `initializeScopes`. -/
theorem grow_eq_or (scope : Scope) (m : Method) (o : Override) :
    o.grow scope m = o ∨ o.role = .aggregateInitializer ∧ o.grow scope m = o.withCall m.name := by
  rw [grow]
  split
  case isTrue h => exact .inr ⟨h.1, rfl⟩
  case isFalse => exact .inl rfl

end Override

/-- Forwards do not grow. -/
theorem map_grow_forwards {role : Role} (hrole : role ≠ .aggregateInitializer) (scope : Scope)
    (m : Method) (ms : List Method) :
    (forwards role ms).map (Override.grow scope m) = forwards role ms := by
  calc (forwards role ms).map (Override.grow scope m)
      = (forwards role ms).map id := List.map_congr_left fun o ho =>
          Override.grow_of_role_ne (role_of_mem_forwards ho ▸ hrole)
    _ = forwards role ms := List.map_id _

namespace ClassDecl

variable {cls : ClassDecl} {scope : Scope} {m : Method}

/-- What is called in a longer class: first what was called, then the new method. -/
theorem filter_isInitializerOf_withMethod (cls : ClassDecl) (scope : Scope) (m : Method) :
    ((cls.withMethod m).methods.filter (·.isInitializerOf scope)) =
      cls.methods.filter (·.isInitializerOf scope) ++
        if m.isInitializerOf scope then [m] else [] := by
  rw [withMethod, List.filter_append, List.filter_cons, List.filter_nil]

/-- The override of `initializeScopes` in a longer class. -/
theorem aggregateOf_withMethod (cls : ClassDecl) (scope : Scope) (m first : Method) :
    (cls.withMethod m).aggregateOf scope first = (cls.aggregateOf scope first).grow scope m := by
  rw [aggregateOf, filter_isInitializerOf_withMethod, Override.grow]
  cases h : m.isInitializerOf scope <;> simp [aggregateOf, Override.withCall]

/-! ## The pass over a longer class -/

/-- **The pass goes on behind a stretch of methods** knowing whether `initializeScopes` was among
them. -/
theorem value_initializersFrom_append (before after : List Method) (declared : Bool) :
    (cls.initializersFrom scope declared (before ++ after)).value =
      (cls.initializersFrom scope declared before).value ++
        (cls.initializersFrom scope (declared || before.any (·.name == initializeScopes))
          after).value := by
  induction before generalizing declared with
  | nil => simp [initializersFrom]
  | cons first before ih =>
    rw [List.cons_append, value_initializersFrom_cons, value_initializersFrom_cons, ih,
      List.any_cons, Bool.or_assoc, List.append_assoc _ _ (Traced.value _)]

/-- One method is forwarded if it is an initializer. -/
theorem value_initializerForward (scope : Scope) (m : Method) :
    (initializerForward scope m).value =
      forwards .initializerForward (if m.isInitializerOf scope then [m] else []) := by
  rw [initializerForward]
  split <;> rfl

/-- **The pass over the same methods of a longer class** leaves the same overrides, grown. -/
theorem value_initializersFrom_withMethod (ms : List Method) (declared : Bool) :
    ((cls.withMethod m).initializersFrom scope declared ms).value =
      (cls.initializersFrom scope declared ms).value.map (Override.grow scope m) := by
  induction ms generalizing declared with
  | nil => rfl
  | cons first rest ih =>
    have haggregate : ((cls.withMethod m).aggregate scope first).value =
        (cls.aggregate scope first).value.map (Override.grow scope m) :=
      congrArg (fun o => [o]) (aggregateOf_withMethod cls scope m first)
    have hforward : (initializerForward scope first).value.map (Override.grow scope m) =
        (initializerForward scope first).value := by
      rw [value_initializerForward, map_grow_forwards (by decide)]
    rw [value_initializersFrom_cons, value_initializersFrom_cons, ih, haggregate,
      List.map_append, List.map_append, hforward]
    split <;> rfl

/-- **The pass over a longer class**: the old overrides, grown, and then those of the new method. -/
theorem value_initializers_withMethod (cls : ClassDecl) (scope : Scope) (m : Method) :
    ((cls.withMethod m).initializers scope).value =
      (cls.initializers scope).value.map (Override.grow scope m) ++
        (forwards .initializerForward (if m.isInitializerOf scope then [m] else []) ++
          if m.name = initializeScopes ∧ cls.method? initializeScopes = none then
            [(cls.aggregateOf scope m).grow scope m] else []) := by
  have hdeclared : (!(false || cls.methods.any (·.name == initializeScopes)) &&
      m.name == initializeScopes) =
        decide (m.name = initializeScopes ∧ cls.method? initializeScopes = none) := by
    rw [Bool.eq_iff_iff]
    simp [method?, and_comm]
  rw [initializers, withMethod, value_initializersFrom_append, ← withMethod,
    value_initializersFrom_withMethod, value_initializersFrom_cons, hdeclared,
    value_initializerForward, ← aggregateOf_withMethod]
  simp only [initializersFrom, Traced.value_pure, List.append_nil, decide_eq_true_eq]
  rfl

end ClassDecl

/-! ## The generated class -/

namespace Presentation

variable (presentation : Presentation) (cls : ClassDecl) (scope : Scope) (package : String)
  (m : Method)

theorem methods_emit_withMethod :
    (presentation.emit (cls.withMethod m) scope package).value.methods =
      ((cls.initializers scope).value.map (Override.grow scope m) ++
        (forwards .initializerForward (if m.isInitializerOf scope then [m] else []) ++
          if m.name = initializeScopes ∧ cls.method? initializeScopes = none then
            [(cls.aggregateOf scope m).grow scope m] else [])) ++
      (forwards .scopedForward (cls.methods.filter (·.isMemberOf scope)) ++
        forwards .scopedForward (if m.isMemberOf scope then [m] else [])) := by
  rw [methods_emit, ClassDecl.value_initializers_withMethod, ← forwards_append]
  rw [ClassDecl.withMethod, List.filter_append, List.filter_cons, List.filter_nil]

/-- **A method more changes a generated class in one way.**  It is forwarded behind the initializers
if it is one, and last of all if it is a member; between the two stands the override of
`initializeScopes` if this is the first method of that name.  An override of `initializeScopes` that
is there already gets one call at its end, and all else stays as it is and where it is. -/
theorem growth_emit (presentation : Presentation) (cls : ClassDecl) (scope : Scope)
    (package : String) (m : Method) :
    let sub := (presentation.emit cls scope package).value
    let sub' := (presentation.emit (cls.withMethod m) scope package).value
    sub' = { sub with
      methods :=
        (sub.methods.filter (·.role != .scopedForward)).map (Override.grow scope m) ++
        (if m.isInitializerOf scope then [⟨m.signature, .initializerForward, [.super m.name]⟩]
        else []) ++
        (if m.name = "initializeScopes" ∧ cls.method? "initializeScopes" = none then
          [⟨m.signature, .aggregateInitializer, .super "initializeScopes" ::
            ((sub.methodsWithRole .initializerForward).map fun o => .self o.signature.name) ++
              if m.isInitializerOf scope then [.self m.name] else []⟩]
        else []) ++
        sub.methodsWithRole .scopedForward ++
        (if m.isMemberOf scope then [⟨m.signature, .scopedForward, [.super m.name]⟩] else []) } ∧
    ∃ grown : List Override, grown.Sublist sub'.methods ∧
      List.Forall₂ (fun o o' => o' = o ∨ o.role = .aggregateInitializer ∧ o' = o.withCall m.name)
        sub.methods grown := by
  intro sub sub'
  have hmethods : sub'.methods = _ := methods_emit_withMethod presentation cls scope package m
  have hforwards : ∀ (role : Role) (b : Bool), forwards role (if b then [m] else []) =
      if b then [⟨m.signature, role, [.super m.name]⟩] else [] := by
    intro role b
    cases b <;> rfl
  have haggregate : (cls.aggregateOf scope m).grow scope m =
      ⟨m.signature, .aggregateInitializer, .super "initializeScopes" ::
        ((sub.methodsWithRole .initializerForward).map fun o => .self o.signature.name) ++
          if m.isInitializerOf scope then [.self m.name] else []⟩ := by
    rw [methodsWithRole_initializerForward, map_self_forwards, Override.grow]
    cases h : m.isInitializerOf scope <;>
      simp [ClassDecl.aggregateOf, Override.withCall, initializeScopes]
  refine ⟨?_, sub.methods.map (Override.grow scope m), ?_, ?_⟩
  · have hsub : sub' = { sub with methods := sub'.methods } := rfl
    rw [hsub, hmethods, filter_role_ne_scopedForward, methodsWithRole_scopedForward, hforwards,
      hforwards, haggregate]
    simp only [List.append_assoc]
    rfl
  · rw [hmethods, methods_emit, List.map_append, map_grow_forwards (by decide)]
    exact (List.sublist_append_left _ _).append (List.sublist_append_left _ _)
  · exact List.forall₂_map_right_iff.mpr
      (List.forall₂_same.mpr fun o _ => Override.grow_eq_or scope m o)

end Presentation

end ScopeGen
