import ScopeGen.Proofs.Emission.Overrides
import ScopeGen.Proofs.Marker.Canonical

/-!
# Proofs/Emission/Readings — the initializers of a scope are the members of another

    emit Foo ──▸ initializers ──same methods──  members ◂── emit InitFoo

The marker `@InitFooScope` may be read as that of an initializer of `Foo` or as that of a member of
`InitFoo`.  The two emissions look for it in different passes and by different functions, and both
find it on the same methods (`Method.isMemberOf_withInit`): `InitFoo` overrides as its members what
`Foo` overrides as its initializers, which is also what the override of `initializeScopes` calls.
-/

namespace ScopeGen

/-- **A method is a member of the scope with `Init` in front exactly when it initializes the
scope.** -/
theorem Method.isMemberOf_withInit (m : Method) (scope : Scope) :
    m.isMemberOf scope.withInit = m.isInitializerOf scope := by
  simp only [Method.isMemberOf, Method.isInitializerOf, Marker.isMemberOf_withInit]

/-- What is called on the object itself. -/
def Call.ofSelf? : Call → Option String
  | .self method => some method
  | .super _ => none

/-- What is generated for a forwarded method does not show in which role it is forwarded. -/
theorem map_code_forwards (role : Role) (ms : List Method) :
    (forwards role ms).map (fun o => (o.signature, o.body)) =
      ms.map fun m => (m.signature, [.super m.name]) := by
  rw [forwards, List.map_map]
  rfl

/-- The override of `initializeScopes` calls on the object the initializers of the scope. -/
theorem ClassDecl.filterMap_ofSelf?_aggregateOf (cls : ClassDecl) (scope : Scope) (first : Method) :
    (cls.aggregateOf scope first).body.filterMap Call.ofSelf? =
      (cls.methods.filter (·.isInitializerOf scope)).map (·.name) := by
  rw [aggregateOf, List.filterMap_cons_none rfl, List.filterMap_map, ← List.filterMap_eq_map]
  rfl

namespace Presentation

variable (presentation : Presentation) (cls : ClassDecl) (scope : Scope) (package : String)

theorem aggregate?_emit :
    (presentation.emit cls scope package).value.aggregate? =
      (cls.method? initializeScopes).map (cls.aggregateOf scope) := by
  rw [Subclass.aggregate?, ← List.head?_filter]
  change ((presentation.emit cls scope package).value.methodsWithRole _).head? = _
  rw [methodsWithRole_aggregateInitializer]
  cases cls.method? initializeScopes <;> rfl

/-- **The members of the scope with `Init` in front are the initializers of the scope.** -/
theorem methodsWithRole_scopedForward_withInit :
    (presentation.emit cls scope.withInit package).value.methodsWithRole .scopedForward =
      forwards .scopedForward (cls.methods.filter (·.isInitializerOf scope)) := by
  simp only [methodsWithRole_scopedForward, Method.isMemberOf_withInit]

/-- **The two readings of `Init` coincide.**  With `Init` in front of a scope there is a scope
again, and what its subclass overrides as members are, as they are written and in the same order,
the methods that the subclass for the scope itself overrides as initializers.  So the override of
`initializeScopes`, which the latter has when the class declares it, calls on the object exactly
these members, in their order. -/
theorem readings_emit (presentation : Presentation) (cls : ClassDecl) (scope : Scope)
    (package : String) :
    ∃ initScope : Scope, Scope.ofString ("Init" ++ scope.name) = .ok initScope ∧
      ((presentation.emit cls initScope package).value.methodsWithRole .scopedForward).map
          (fun o => (o.signature, o.body)) =
        ((presentation.emit cls scope package).value.methodsWithRole .initializerForward).map
          (fun o => (o.signature, o.body)) ∧
      (presentation.emit cls scope package).value.aggregate?.map
          (·.body.filterMap Call.ofSelf?) =
        (cls.method? "initializeScopes").map fun _ =>
          ((presentation.emit cls initScope package).value.methodsWithRole .scopedForward).map
            (·.signature.name) := by
  refine ⟨scope.withInit, Scope.ofString_eq_ok_iff.mpr rfl, ?_, ?_⟩
  · rw [methodsWithRole_scopedForward_withInit, methodsWithRole_initializerForward,
      map_code_forwards, map_code_forwards]
  · rw [methodsWithRole_scopedForward_withInit, aggregate?_emit, Option.map_map]
    refine congrArg (Option.map · _) ?_
    funext first
    rw [Function.comp_apply, ClassDecl.filterMap_ofSelf?_aggregateOf, forwards, List.map_map]
    rfl

end Presentation

end ScopeGen
