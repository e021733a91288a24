import ScopeGen.Presentation
import ScopeGen.Source.Basic
import ScopeGen.Subclass

/-!
# Source/Model — reading the model

One reader per type of the model, for documents of any kind.  Values and annotations hold each
other; since documents have a largest depth, a value is read with a number of levels that no
document exceeds.
-/

namespace ScopeGen

open Source

variable {D : Type} {M : Type → Type} [Monad M] [MonadExcept Refusal M] [Source D M]

/-! ## Annotations -/

/-- A marker, of which `Other` may be named bare. -/
def Marker.read : D → M Marker :=
  oneOf [
    ("Member", .filled "newtype variant" fun d => .member <$> scope d),
    ("Initializer", .filled "newtype variant" fun d => .initializer <$> scope d),
    ("Other", .bare .other)]

/-- The fields of a member, whose value is read by `value`. -/
def Member.fields (value : D → M Value) : List (Field D M Member) :=
  [required "name" text fun name m => { m with name },
   required "value" value fun value m => { m with value }]

/-- A member, whose value is read by `value`. -/
def Member.readWith (value : D → M Value) : D → M Member :=
  record "struct AnnotationMember" (Member.fields value) ⟨"", .string ""⟩

/-- The fields of an annotation, of whose members the values are read by `value`. -/
def Annot.fields (value : D → M Value) : List (Field D M Annot) :=
  [required "name" text fun name a => { a with name },
   defaulted "members" (listOf (Member.readWith value)) fun members a => { a with members },
   defaulted "kind" Marker.read fun marker a => { a with marker }]

/-- An annotation, of whose members the values are read by `value`. -/
def Annot.readWith (value : D → M Value) : D → M Annot :=
  record "struct AnnotationDescriptor" (Annot.fields value) ⟨"", [], .other⟩

/-- The alternatives for a value, of which nested values are read by `value`. -/
def Value.cases (value : D → M Value) : List (String × Case D M Value) :=
  [("String", .filled "newtype variant" fun d => .string <$> text d),
   ("Integer", .filled "newtype variant" fun d => .integer <$> int d),
   ("Bool", .filled "newtype variant" fun d => .bool <$> flag d),
   ("Type", .filled "newtype variant" fun d => .type <$> text d),
   ("Enum", .filled "newtype variant" fun d => .enum <$> text d),
   ("Annotation", .filled "newtype variant" fun d => .annot <$> Annot.readWith value d),
   ("List", .filled "newtype variant" fun d => .list <$> listOf value d)]

/-- A value with no more than so many values inside each other. -/
def Value.readLevels : Nat → D → M Value
  | 0, _ => throw .tooDeep
  | n + 1, d => oneOf (Value.cases (Value.readLevels n)) d

/-- A value. -/
def Value.read (d : D) : M Value := Value.readLevels (Source.depth D + 1) d

/-- A member of an annotation. -/
def Member.read (d : D) : M Member := Member.readWith Value.read d

/-- An annotation, which may leave out its members and its `kind`. -/
def Annot.read (d : D) : M Annot := Annot.readWith Value.read d

/-! ## Classes -/

/-- Both fields of a parameter have to be there. -/
def Parameter.fields : List (Field D M Parameter) :=
  [required "name" text fun name p => { p with name },
   required "ty" text fun type p => { p with type }]

def Parameter.read : D → M Parameter := record "struct Parameter" Parameter.fields ⟨"", ""⟩

/-- The name of a signature has to be there; the rest has a default. -/
def Signature.fields : List (Field D M Signature) :=
  [required "name" text fun name s => { s with name },
   defaulted "parameters" (listOf Parameter.read) fun parameters s => { s with parameters },
   defaulted "return_type" text fun returnType s => { s with returnType },
   defaulted "modifiers" (listOf text) fun modifiers s => { s with modifiers }]

/-- The signature of a method. -/
def Signature.read : D → M Signature :=
  record "struct MethodSignature" Signature.fields { name := "" }

/-- A method may leave out the annotations on it. -/
def Method.fields : List (Field D M Method) :=
  [required "signature" Signature.read fun signature m => { m with signature },
   defaulted "annotations" (listOf Annot.read) fun annotations m => { m with annotations }]

/-- A method with the annotations on it. -/
def Method.read : D → M Method :=
  record "struct MethodDescriptor" Method.fields { signature := { name := "" } }

/-- A class may leave out everything but its name. -/
def ClassDecl.fields : List (Field D M ClassDecl) :=
  [required "name" text fun name cls => { cls with name },
   defaulted "members" (listOf Method.read) fun methods cls => { cls with methods },
   defaulted "scope_annotations" (listOf Annot.read) fun annotations cls =>
    { cls with annotations }]

/-- **A class**, with its methods and the annotations on it. -/
def ClassDecl.read : D → M ClassDecl :=
  record "struct ClassDescriptor" ClassDecl.fields { name := "" }

/-! ## Generated classes -/

/-- The role of a generated method. -/
def Role.read : D → M Role :=
  oneOf [
    ("InitializerForward", .bare .initializerForward),
    ("AggregateInitializer", .bare .aggregateInitializer),
    ("ScopedForward", .bare .scopedForward)]

/-- The field that names the called method. -/
def Call.fields : List (Field D M String) := [required "method" text fun method _ => method]

/-- The content of a call that is written under this name. -/
def Call.readContent (name : String) : D → M String :=
  record ("struct variant Statement::" ++ name) Call.fields ""

/-- A statement of a generated body. -/
def Call.read : D → M Call :=
  oneOf [
    ("SuperCall", .filled "struct variant" fun d => .super <$> readContent "SuperCall" d),
    ("SelfCall", .filled "struct variant" fun d => .self <$> readContent "SelfCall" d)]

/-- Every field of a generated method has to be there. -/
def Override.fields : List (Field D M Override) :=
  [required "signature" Signature.read fun signature o => { o with signature },
   required "role" Role.read fun role o => { o with role },
   required "body" (listOf Call.read) fun body o => { o with body }]

def Override.read : D → M Override :=
  record "struct GeneratedMethod" Override.fields ⟨{ name := "" }, .scopedForward, []⟩

/-- Every field of a generated class has to be there, but for the doc, which may hold nothing: it
may be left out where fields have names. -/
def Subclass.fields : List (Field D M Subclass) :=
  [required "name" text fun name sub => { sub with name },
   required "package_name" text fun package sub => { sub with package },
   required "superclass_name" text fun superclass sub => { sub with superclass },
   ⟨"doc", .named, fun d => (fun doc sub => { sub with doc }) <$> optionOf text d⟩,
   required "modifiers" (listOf text) fun modifiers sub => { sub with modifiers },
   required "class_annotations" (listOf Annot.read) fun annotations sub =>
    { sub with annotations },
   required "methods" (listOf Override.read) fun methods sub => { sub with methods }]

def Subclass.read : D → M Subclass :=
  record "struct GeneratedClass" Subclass.fields ⟨"", "", "", none, [], [], []⟩

/-! ## Presentations -/

/-- A presentation may leave out both of its fields, and then looks as by default. -/
def Presentation.fields : List (Field D M Presentation) :=
  [defaulted "header" (optionOf text) fun header p => { p with header },
   defaulted "modifiers" (listOf text) fun modifiers p => { p with modifiers }]

def Presentation.read : D → M Presentation := record "struct GeneratorConfig" Presentation.fields {}

end ScopeGen
