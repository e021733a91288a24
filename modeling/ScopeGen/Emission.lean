import ScopeGen.Presentation
import ScopeGen.Subclass
import ScopeGen.Trace

/-!
# Emission — generating the subclass of a class for a scope

The annotations on a class list its scopes, and beside each scope the annotation that the subclass
for it gets.  `emit` generates that subclass: it overrides every initializer of the scope, the
method `initializeScopes` when the class declares one, and every member of the scope.  Nothing
fails; what is missing or of the wrong kind contributes nothing.
-/

namespace ScopeGen

/-- The method whose override runs all initializers of a scope. -/
def initializeScopes : String := "initializeScopes"

/-! ## The scopes that a class declares -/

namespace Annot

/-- The items of the first `scopes` member. -/
def scopeItems (a : Annot) : List Value :=
  ((a.member? scopesMember).map Value.items).getD []

/-- The items of the first `values` member. -/
def valueItems (a : Annot) : List Value :=
  ((a.member? valuesMember).map Value.items).getD []

/-- Where the scope first stands among the `scopes`. -/
def position? (a : Annot) (scope : Scope) : Option Nat :=
  a.scopeItems.findIdx? (·.scopeText? == some scope.name)

/-- The annotation that stands at a position of the `values`. -/
def annotAt? (a : Annot) (position : Nat) : Option Annot :=
  a.valueItems[position]?.bind Value.annot?

end Annot

namespace ClassDecl

/-- The texts listed as scopes of the class, in reading order. -/
def scopeTexts (cls : ClassDecl) : List String :=
  cls.annotations.flatMap fun a => a.scopeItems.filterMap Value.scopeText?

/-- The scope that a listed text names; a text that names none is reported. -/
def readScope (cls : ClassDecl) (text : String) : Traced (List Scope) :=
  match Scope.ofString text with
  | .ok scope => pure [scope]
  | .error e => do
    Traced.report (.undeclarable cls.name e)
    return []

/-- The scopes that the class declares, each where it is first listed. -/
def declaredScopes (cls : ClassDecl) : Traced (List Scope) := do
  return Scope.distinct (← Traced.collect cls.readScope cls.scopeTexts)

end ClassDecl

/-! ## The parts of a subclass -/

namespace ClassDecl

variable (cls : ClassDecl) (scope : Scope)

/-- The annotation that a class-level annotation gives to the scope. -/
def scopeAnnot (a : Annot) : Traced (List Annot) :=
  match a.position? scope with
  | none => pure []
  | some position =>
    match a.annotAt? position with
    | some nested => do
      Traced.report (.copying cls.name scope nested.name)
      return [nested]
    | none => do
      Traced.report (.unmatched cls.name scope a.name position)
      return []

/-- The override of a method that initializes the scope. -/
def initializerForward (m : Method) : Traced (List Override) :=
  if m.isInitializerOf scope then do
    Traced.report (.initializer m.name scope)
    return [.forwarding m.signature .initializerForward]
  else
    pure []

/-- The override of `initializeScopes`, declared as `m`: it calls the superclass and then every
initializer of the scope that the class has. -/
def aggregate (m : Method) : Traced (List Override) := do
  let calls := (cls.methods.filter (·.isInitializerOf scope)).map fun m => Call.self m.name
  Traced.report (.aggregate calls.length)
  return [⟨m.signature, .aggregateInitializer, .super initializeScopes :: calls⟩]

/-- The overrides of the initializers among the methods.  That of `initializeScopes` follows the
first method of this name, unless it was `aggregated` before. -/
def initializersFrom (aggregated : Bool) : List Method → Traced (List Override)
  | [] => pure []
  | m :: rest => do
    let forward ← initializerForward scope m
    if !aggregated && m.name == initializeScopes then
      let aggregate ← cls.aggregate scope m
      return forward ++ aggregate ++ (← initializersFrom true rest)
    else
      return forward ++ (← initializersFrom aggregated rest)

/-- The overrides of the initializers, with that of `initializeScopes` at the place where the class
first declares it. -/
def initializers : Traced (List Override) := cls.initializersFrom scope false cls.methods

/-- The override of a method that is a member of the scope. -/
def scopedForward (m : Method) : Traced (List Override) :=
  if m.isMemberOf scope then do
    Traced.report (.scoped m.name scope)
    return [.forwarding m.signature .scopedForward]
  else
    pure []

end ClassDecl

/-! ## Emission -/

namespace Presentation

variable (presentation : Presentation) (cls : ClassDecl)

/-- The subclass of `cls` for `scope`, in the given package. -/
def emit (scope : Scope) (package : String) : Traced Subclass := do
  let name := scope.classNameFor cls.name
  Traced.report (.emitting cls.name scope name)
  let annotations ← Traced.collect (cls.scopeAnnot scope) cls.annotations
  let initializers ← cls.initializers scope
  let methods := initializers ++ (← Traced.collect (ClassDecl.scopedForward scope) cls.methods)
  Traced.report (.emitted name annotations.length methods.length)
  return {
    name
    package
    superclass := cls.name
    doc := presentation.header
    modifiers := presentation.modifiers
    annotations
    methods }

/-- One subclass for each scope that the class declares. -/
def emitDeclared (package : String) : Traced (List Subclass) := do
  Traced.collect (fun scope => return [← presentation.emit cls scope package])
    (← cls.declaredScopes)

end Presentation

end ScopeGen
