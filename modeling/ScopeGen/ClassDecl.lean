import ScopeGen.Annot

/-!
# ClassDecl — the class that subclasses are generated for

A class declaration lists its methods and the annotations on the class itself, both in order of
declaration.  Of a signature only the name matters; its types and modifiers are copied as they are.
-/

namespace ScopeGen

/-- A parameter of a method. -/
structure Parameter where
  name : String
  type : String
deriving DecidableEq

/-- The signature of a method.  One that is given by name alone takes nothing and returns nothing.
-/
structure Signature where
  name : String
  parameters : List Parameter := []
  returnType : String := "void"
  modifiers : List String := []
deriving DecidableEq

namespace Signature

/-- The signature with a parameter more, behind the others. -/
def withParameter (s : Signature) (name type : String) : Signature :=
  { s with parameters := s.parameters ++ [⟨name, type⟩] }

def withReturnType (s : Signature) (returnType : String) : Signature := { s with returnType }

/-- The signature with a modifier more, behind the others. -/
def withModifier (s : Signature) (modifier : String) : Signature :=
  { s with modifiers := s.modifiers ++ [modifier] }

end Signature

/-- A declared method with the annotations on it. -/
structure Method where
  signature : Signature
  annotations : List Annot := []
deriving DecidableEq

namespace Method

/-- The name of a method is that in its signature. -/
def name (m : Method) : String := m.signature.name

def withAnnot (m : Method) (a : Annot) : Method :=
  { m with annotations := m.annotations ++ [a] }

/-- Whether some annotation on the method gives exactly this role. -/
def hasMarker (m : Method) (marker : Marker) : Bool := m.annotations.any (·.marker == marker)

/-- Whether the method carries the marker `@‹scope›Scope`. -/
def isMemberOf (m : Method) (scope : Scope) : Bool :=
  m.annotations.any (·.marker.isMemberOf scope)

/-- Whether the method carries the marker `@Init‹scope›Scope`. -/
def isInitializerOf (m : Method) (scope : Scope) : Bool :=
  m.annotations.any (·.marker.isInitializerOf scope)

end Method

/-- A class with its methods and the annotations that declare its scopes. -/
structure ClassDecl where
  name : String
  methods : List Method := []
  annotations : List Annot := []
deriving DecidableEq

namespace ClassDecl

/-- The class with a method more, declared last. -/
def withMethod (cls : ClassDecl) (m : Method) : ClassDecl :=
  { cls with methods := cls.methods ++ [m] }

def withAnnot (cls : ClassDecl) (a : Annot) : ClassDecl :=
  { cls with annotations := cls.annotations ++ [a] }

/-- The first method of that name. -/
def method? (cls : ClassDecl) (name : String) : Option Method := cls.methods.find? (·.name == name)

end ClassDecl

end ScopeGen
