import ScopeGen.Json.Basic
import ScopeGen.Presentation
import ScopeGen.Subclass

/-!
# Json/Model — writing the model as JSON

Every record is written with all its fields, in order of declaration.
-/

namespace ScopeGen

/-- A scope is written as its name. -/
def Scope.toJson (scope : Scope) : Json := .str scope.name

/-- A marker with a scope is an object with one entry; `Other` is a text. -/
def Marker.toJson : Marker → Json
  | .member scope => .obj [("Member", scope.toJson)]
  | .initializer scope => .obj [("Initializer", scope.toJson)]
  | .other => .str "Other"

mutual

/-- A value is an object with one entry, whose key says what kind of constant it is. -/
def Value.toJson : Value → Json
  | .string text => .obj [("String", .str text)]
  | .integer n => .obj [("Integer", .int n.toInt)]
  | .bool b => .obj [("Bool", .bool b)]
  | .type name => .obj [("Type", .str name)]
  | .enum name => .obj [("Enum", .str name)]
  | .annot nested => .obj [("Annotation", nested.toJson)]
  | .list items => .obj [("List", .arr (Value.toJsons items))]

/-- The marker of an annotation is written as its `kind`. -/
def Annot.toJson : Annot → Json
  | ⟨name, members, marker⟩ =>
    .obj [("name", .str name), ("members", .arr (Member.toJsons members)),
      ("kind", marker.toJson)]

/-- A member is written as the name and the value that it pairs. -/
def Member.toJson : Member → Json
  | ⟨name, value⟩ => .obj [("name", .str name), ("value", value.toJson)]

/-- The items of a list, which the recursion takes one by one. -/
def Value.toJsons : List Value → List Json
  | [] => []
  | value :: rest => value.toJson :: Value.toJsons rest

def Member.toJsons : List Member → List Json
  | [] => []
  | member :: rest => member.toJson :: Member.toJsons rest

end

/-- From outside, the recursion over a list is a `map`. -/
theorem Value.toJsons_eq_map (values : List Value) :
    Value.toJsons values = values.map Value.toJson := by
  induction values with
  | nil => simp [Value.toJsons]
  | cons value rest ih => simp [Value.toJsons, ih]

/-- The same for the members of an annotation. -/
theorem Member.toJsons_eq_map (members : List Member) :
    Member.toJsons members = members.map Member.toJson := by
  induction members with
  | nil => simp [Member.toJsons]
  | cons member rest ih => simp [Member.toJsons, ih]

/-- A list of texts. -/
def Json.strs (texts : List String) : Json := .arr (texts.map .str)

/-- The type of a parameter is written as its `ty`. -/
def Parameter.toJson (p : Parameter) : Json :=
  .obj [("name", .str p.name), ("ty", .str p.type)]

/-- A signature is written with its defaults. -/
def Signature.toJson (s : Signature) : Json :=
  .obj [("name", .str s.name), ("parameters", .arr (s.parameters.map Parameter.toJson)),
    ("return_type", .str s.returnType), ("modifiers", .strs s.modifiers)]

/-- The name of a method is inside its signature. -/
def Method.toJson (m : Method) : Json :=
  .obj [("signature", m.signature.toJson),
    ("annotations", .arr (m.annotations.map Annot.toJson))]

/-- The methods of a class are its `members`, and the annotations on it its `scope_annotations`. -/
def ClassDecl.toJson (cls : ClassDecl) : Json :=
  .obj [("name", .str cls.name), ("members", .arr (cls.methods.map Method.toJson)),
    ("scope_annotations", .arr (cls.annotations.map Annot.toJson))]

/-- A role is written as its name. -/
def Role.toJson : Role → Json
  | .initializerForward => .str "InitializerForward"
  | .aggregateInitializer => .str "AggregateInitializer"
  | .scopedForward => .str "ScopedForward"

/-- A call is an object whose key says on what it is; the method is named in a second object inside.
-/
def Call.toJson : Call → Json
  | .super method => .obj [("SuperCall", .obj [("method", .str method)])]
  | .self method => .obj [("SelfCall", .obj [("method", .str method)])]

def Override.toJson (o : Override) : Json :=
  .obj [("signature", o.signature.toJson), ("role", o.role.toJson),
    ("body", .arr (o.body.map Call.toJson))]

/-- A doc that is not there is written as `null`. -/
def Subclass.toJson (sub : Subclass) : Json :=
  .obj [("name", .str sub.name), ("package_name", .str sub.package),
    ("superclass_name", .str sub.superclass), ("doc", sub.doc.elim .null .str),
    ("modifiers", .strs sub.modifiers),
    ("class_annotations", .arr (sub.annotations.map Annot.toJson)),
    ("methods", .arr (sub.methods.map Override.toJson))]

/-- A presentation without a header has `null` in its place. -/
def Presentation.toJson (p : Presentation) : Json :=
  .obj [("header", p.header.elim .null .str), ("modifiers", .strs p.modifiers)]

end ScopeGen
