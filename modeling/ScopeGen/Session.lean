import ScopeGen.Emission

/-!
# Session — making a class step by step

A session holds a class, a method, a signature and an annotation in the making, and the presentation
its subclasses get.  A step changes one of them and shows it.
-/

namespace ScopeGen

/-- What is in the making. -/
structure Session where
  cls : ClassDecl := { name := "" }
  method : Method := { signature := { name := "" } }
  signature : Signature := { name := "" }
  annot : Annot := .ofName ""
  presentation : Presentation := {}
  /-- the subclass that was generated last -/
  last : Option Subclass := none

namespace Session

/-- A step of a session. -/
inductive Step where
  | newClass (name : String)
  | addMethod
  | annotateClass
  | showClass
  | newSignature (name : String)
  | addParameter (name type : String)
  | setReturnType (type : String)
  | addModifier (modifier : String)
  | newMethod (name : String)
  | methodOfSignature
  | annotateMethod
  | newAnnot (name : String)
  | addMember (name : String) (value : Value)
  | setMarker (marker : Marker)
  /-- puts the annotation into a member of a new one -/
  | wrapAnnot (name member : String)
  | present (presentation : Presentation)
  | emit (scope : Scope) (package : String)
  | emitDeclared (package : String)

/-- What a step shows. -/
inductive Shown where
  | cls (cls : ClassDecl)
  | signature (signature : Signature)
  | method (method : Method)
  | annot (annot : Annot)
  | presentation (presentation : Presentation)
  | subclass (subclass : Subclass)
  | subclasses (subclasses : List Subclass)

/-- Goes on with another class, and shows it. -/
def withClass (s : Session) (cls : ClassDecl) : Session × Shown := ({ s with cls }, .cls cls)

/-- Goes on with another signature, and shows it. -/
def withSignature (s : Session) (signature : Signature) : Session × Shown :=
  ({ s with signature }, .signature signature)

/-- Goes on with another method, and shows it. -/
def withMethod (s : Session) (method : Method) : Session × Shown :=
  ({ s with method }, .method method)

/-- Goes on with another annotation, and shows it. -/
def withAnnot (s : Session) (annot : Annot) : Session × Shown :=
  ({ s with annot }, .annot annot)

/-- Takes one step. -/
def step (s : Session) : Step → Session × Shown
  | .newClass name => s.withClass { name }
  | .addMethod => s.withClass (s.cls.withMethod s.method)
  | .annotateClass => s.withClass (s.cls.withAnnot s.annot)
  | .showClass => s.withClass s.cls
  | .newSignature name => s.withSignature { name }
  | .addParameter name type => s.withSignature (s.signature.withParameter name type)
  | .setReturnType type => s.withSignature (s.signature.withReturnType type)
  | .addModifier modifier => s.withSignature (s.signature.withModifier modifier)
  | .newMethod name => s.withMethod { signature := { name } }
  | .methodOfSignature => s.withMethod { signature := s.signature }
  | .annotateMethod => s.withMethod (s.method.withAnnot s.annot)
  | .newAnnot name => s.withAnnot (.ofName name)
  | .addMember name value => s.withAnnot (s.annot.withMember name value)
  | .setMarker marker => s.withAnnot (s.annot.withMarker marker)
  | .wrapAnnot name member =>
    s.withAnnot ((Annot.ofName name).withMember member (.annot s.annot))
  | .present presentation => ({ s with presentation }, .presentation presentation)
  | .emit scope package =>
    let subclass := (s.presentation.emit s.cls scope package).value
    ({ s with last := some subclass }, .subclass subclass)
  | .emitDeclared package =>
    (s, .subclasses (s.presentation.emitDeclared s.cls package).value)

end Session

end ScopeGen
