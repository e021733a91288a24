import ScopeGen.Scope

/-!
# Marker — what an annotation says about a scope

An annotation `@FooScope` marks a **member** of the scope `Foo`, and `@InitFooScope` an
**initializer** of it.  The second name is also the member marker of a scope `InitFoo`, so a marker
is matched against a scope by its name and not by its constructor: `isMemberOf` and
`isInitializerOf` accept either reading.
-/

namespace ScopeGen

/-- The role in a scope that an annotation gives to what it stands on. -/
inductive Marker where
  | member (scope : Scope)
  | initializer (scope : Scope)
  | other
deriving DecidableEq

namespace Marker

/-- The scope that a text names, if it names one. -/
def scope? (name : String) : Option Scope := (Scope.ofString name).toOption

theorem scope?_eq_some_iff {name : String} {scope : Scope} :
    scope? name = some scope ↔ scope.name = name := by
  rw [← Scope.ofString_eq_ok_iff, scope?]
  cases Scope.ofString name <;> simp [Except.toOption]

/-- What stands between the at sign and the suffix of a marker name. -/
def inner? (name : String) : Option String := cutPrefix? "@" name >>= cutSuffix? scopeSuffix

/-- The role that an annotation name such as `@FooScope` or `@InitFooScope` gives.  A name that is
a marker both ways is read as an initializer. -/
def ofName (name : String) : Marker :=
  match inner? name with
  | none => .other
  | some inner =>
    match cutPrefix? initPrefix inner >>= scope? with
    | some scope => .initializer scope
    | none => (scope? inner).elim .other .member

/-- Whether this is the marker `@‹scope›Scope`. -/
def isMemberOf (marker : Marker) (scope : Scope) : Bool :=
  match marker with
  | .member s => s == scope
  | .initializer s => cutPrefix? initPrefix scope.name == some s.name
  | .other => false

/-- Whether this is the marker `@Init‹scope›Scope`. -/
def isInitializerOf (marker : Marker) (scope : Scope) : Bool :=
  match marker with
  | .initializer s => s == scope
  | .member s => cutPrefix? initPrefix s.name == some scope.name
  | .other => false

end Marker

end ScopeGen
