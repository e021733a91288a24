import ScopeGen.ClassDecl

/-!
# Subclass — generated subclasses

A generated subclass overrides methods of its superclass.  Every body is a list of calls, each to
the superclass or to the object itself.
-/

namespace ScopeGen

/-- A statement of a generated body: a call without arguments. -/
inductive Call where
  | super (method : String)
  | self (method : String)
deriving DecidableEq

/-- The call as it is written in the generated source. -/
def Call.render : Call → String
  | .super method => "super." ++ method ++ "()"
  | .self method => method ++ "()"

/-- Why a method is overridden. -/
inductive Role where
  /-- forwards to an initializer of the scope -/
  | initializerForward
  /-- runs all initializers of the scope -/
  | aggregateInitializer
  /-- forwards to a member of the scope -/
  | scopedForward
deriving DecidableEq

/-- A generated method. -/
structure Override where
  signature : Signature
  role : Role
  body : List Call
deriving DecidableEq

/-- The override that only calls the method it overrides. -/
def Override.forwarding (signature : Signature) (role : Role) : Override :=
  ⟨signature, role, [.super signature.name]⟩

/-- A generated class. -/
structure Subclass where
  name : String
  package : String
  superclass : String
  doc : Option String
  modifiers : List String
  annotations : List Annot
  methods : List Override
deriving DecidableEq

namespace Subclass

/-- The generated methods of that name. -/
def methodsNamed (sub : Subclass) (name : String) : List Override :=
  sub.methods.filter (·.signature.name == name)

/-- The generated methods with that role. -/
def methodsWithRole (sub : Subclass) (role : Role) : List Override :=
  sub.methods.filter (·.role == role)

/-- The method that runs all initializers of the scope. -/
def aggregate? (sub : Subclass) : Option Override :=
  sub.methods.find? (·.role == .aggregateInitializer)

end Subclass

end ScopeGen
