import ScopeGen.Json.Model
import ScopeGen.Proofs.Json.Spelling

/-!
# Proofs/Json/Outlines — the outline of each type of the model

Every record has a slot for each of its fields.  A field with a default may be left out while it
holds that, and the doc of a generated class while there is none, but only from a record whose
fields have names.  What an outline writes is what is written for the value (`json_outline` of each
type).
-/

namespace ScopeGen

open Json

/-- What is written of a text is the text. -/
@[simp] theorem Json.Outline.json_str (text : String) : (Outline.str text).json = .str text := rfl

@[simp] theorem Json.Outline.json_strs (texts : List String) :
    (Outline.strs texts).json = .strs texts := by
  rw [strs, json, jsons_eq_map, List.map_map]
  rfl

/-! ## Annotations -/

/-- A marker with a scope has it as its content; `Other` has none, and so a second spelling. -/
def Marker.outline : Marker → Outline
  | .member scope => .filled "Member" (.str scope.name)
  | .initializer scope => .filled "Initializer" (.str scope.name)
  | .other => .bare "Other"

mutual

/-- Every alternative for a value has content, so there is no second spelling of its name. -/
def Value.outline : Value → Outline
  | .string text => .filled "String" (.str text)
  | .integer n => .filled "Integer" (.only (.int n.toInt))
  | .bool b => .filled "Bool" (.only (.bool b))
  | .type name => .filled "Type" (.str name)
  | .enum name => .filled "Enum" (.str name)
  | .annot nested => .filled "Annotation" nested.outline
  | .list items => .filled "List" (.items (Value.outlines items))

/-- The members of an annotation may be left out while there are none, and its `kind` while that is
`Other`. -/
def Annot.outline : Annot → Outline
  | ⟨name, members, marker⟩ =>
    .record [.required "name" (.str name),
      .optional "members" .always members.isEmpty (.items (Member.outlines members)),
      .optional "kind" .always (marker = .other) marker.outline]

/-- A member has no default for either of its fields. -/
def Member.outline : Member → Outline
  | ⟨name, value⟩ => .record [.required "name" (.str name), .required "value" value.outline]

/-- The outlines of the items of a list, which the recursion takes one by one. -/
def Value.outlines : List Value → List Outline
  | [] => []
  | value :: rest => value.outline :: Value.outlines rest

def Member.outlines : List Member → List Outline
  | [] => []
  | member :: rest => member.outline :: Member.outlines rest

end

/-- From outside, the recursion over a list is a `map`. -/
theorem Value.outlines_eq_map (values : List Value) :
    Value.outlines values = values.map Value.outline := by
  induction values with
  | nil => rw [Value.outlines, List.map_nil]
  | cons value rest ih => rw [Value.outlines, ih, List.map_cons]

theorem Member.outlines_eq_map (members : List Member) :
    Member.outlines members = members.map Member.outline := by
  induction members with
  | nil => rw [Member.outlines, List.map_nil]
  | cons member rest ih => rw [Member.outlines, ih, List.map_cons]

/-- The three names are those under which markers are written. -/
@[simp] theorem Marker.json_outline (marker : Marker) : marker.outline.json = marker.toJson := by
  cases marker <;> rfl

mutual

/-- **The outline of a value writes the value**: by recursion on the value, through the members of
its annotations and the items of its lists. -/
@[simp] theorem Value.json_outline : ∀ v : Value, v.outline.json = v.toJson
  | .string _ | .integer _ | .bool _ | .type _ | .enum _ => by
      simp [Value.outline, Value.toJson, Outline.json, Outline.str]
  | .annot nested => by
      rw [Value.outline, Value.toJson, Outline.json, Annot.json_outline nested]
  | .list items => by
      rw [Value.outline, Value.toJson, Outline.json, Outline.json, Value.jsons_outlines items]

/-- A field that may be left out is written all the same. -/
@[simp] theorem Annot.json_outline : ∀ a : Annot, a.outline.json = a.toJson
  | ⟨name, members, marker⟩ => by
      simp [Annot.outline, Annot.toJson, Outline.json, Slot.entries, Slot.required, Slot.optional,
        Member.jsons_outlines members]

@[simp] theorem Member.json_outline : ∀ member : Member, member.outline.json = member.toJson
  | ⟨name, value⟩ => by
      simp [Member.outline, Member.toJson, Outline.json, Slot.entries, Slot.required,
        Value.json_outline value]

/-- The items of a list are written one after another. -/
theorem Value.jsons_outlines : ∀ values : List Value,
    Outline.jsons (Value.outlines values) = Value.toJsons values
  | [] => by rw [Value.outlines, Value.toJsons, Outline.jsons]
  | value :: rest => by
      rw [Value.outlines, Value.toJsons, Outline.jsons, Value.json_outline value,
        Value.jsons_outlines rest]

theorem Member.jsons_outlines : ∀ members : List Member,
    Outline.jsons (Member.outlines members) = Member.toJsons members
  | [] => by rw [Member.outlines, Member.toJsons, Outline.jsons]
  | member :: rest => by
      rw [Member.outlines, Member.toJsons, Outline.jsons, Member.json_outline member,
        Member.jsons_outlines rest]

end

/-! ## Classes -/

/-- A parameter is told by its name and its type, and neither may be left out. -/
def Parameter.outline (p : Parameter) : Outline :=
  .record [.required "name" (.str p.name), .required "ty" (.str p.type)]

/-- Of a signature the name is enough: it takes nothing then, returns `void` and has no modifiers.
-/
def Signature.outline (s : Signature) : Outline :=
  .record [.required "name" (.str s.name),
    .optional "parameters" .always s.parameters.isEmpty
      (.items (s.parameters.map Parameter.outline)),
    .optional "return_type" .always (s.returnType = "void") (.str s.returnType),
    .optional "modifiers" .always s.modifiers.isEmpty (.strs s.modifiers)]

/-- A method without annotations may be written as its signature alone. -/
def Method.outline (m : Method) : Outline :=
  .record [.required "signature" m.signature.outline,
    .optional "annotations" .always m.annotations.isEmpty
      (.items (m.annotations.map Annot.outline))]

/-- A class without methods and annotations may be written as its name alone. -/
def ClassDecl.outline (cls : ClassDecl) : Outline :=
  .record [.required "name" (.str cls.name),
    .optional "members" .always cls.methods.isEmpty (.items (cls.methods.map Method.outline)),
    .optional "scope_annotations" .always cls.annotations.isEmpty
      (.items (cls.annotations.map Annot.outline))]

@[simp] theorem Parameter.json_outline (p : Parameter) : p.outline.json = p.toJson := rfl

/-- The defaults stand in what is written, since it leaves nothing out. -/
@[simp] theorem Signature.json_outline (s : Signature) : s.outline.json = s.toJson := by
  simp [Signature.outline, Signature.toJson, Outline.json, Slot.entries, Slot.required,
    Slot.optional, Outline.jsons_eq_map]

@[simp] theorem Method.json_outline (m : Method) : m.outline.json = m.toJson := by
  simp [Method.outline, Method.toJson, Outline.json, Slot.entries, Slot.required, Slot.optional,
    Outline.jsons_eq_map]

/-- The methods of a class are written by their outlines, and so are the annotations on it. -/
@[simp] theorem ClassDecl.json_outline (cls : ClassDecl) : cls.outline.json = cls.toJson := by
  simp [ClassDecl.outline, ClassDecl.toJson, Outline.json, Slot.entries, Slot.required,
    Slot.optional, Outline.jsons_eq_map]

/-! ## Generated classes -/

/-- A role has no content, so it may be spelled as an object with `null` in it. -/
def Role.outline : Role → Outline
  | .initializerForward => .bare "InitializerForward"
  | .aggregateInitializer => .bare "AggregateInitializer"
  | .scopedForward => .bare "ScopedForward"

/-- The name of the alternative says on what the call is, and a record of one field names the
method. -/
def Call.outline : Call → Outline
  | .super method => .filled "SuperCall" (.record [.required "method" (.str method)])
  | .self method => .filled "SelfCall" (.record [.required "method" (.str method)])

/-- A generated method is always written with all its fields. -/
def Override.outline (o : Override) : Outline :=
  .record [.required "signature" o.signature.outline, .required "role" o.role.outline,
    .required "body" (.items (o.body.map Call.outline))]

/-- Of a generated class only the doc may be left out.  It has no default: without the names of the
fields it has to be there, as a `null` if need be. -/
def Subclass.outline (sub : Subclass) : Outline :=
  .record [.required "name" (.str sub.name), .required "package_name" (.str sub.package),
    .required "superclass_name" (.str sub.superclass),
    .optional "doc" .named sub.doc.isNone (.only (sub.doc.elim .null .str)),
    .required "modifiers" (.strs sub.modifiers),
    .required "class_annotations" (.items (sub.annotations.map Annot.outline)),
    .required "methods" (.items (sub.methods.map Override.outline))]

/-- The names of the roles are those under which they are written. -/
@[simp] theorem Role.json_outline (role : Role) : role.outline.json = role.toJson := by
  cases role <;> rfl

/-- Both calls are written as a record inside an object. -/
@[simp] theorem Call.json_outline (call : Call) : call.outline.json = call.toJson := by
  cases call <;> rfl

@[simp] theorem Override.json_outline (o : Override) : o.outline.json = o.toJson := by
  simp [Override.outline, Override.toJson, Outline.json, Slot.entries, Slot.required,
    Outline.jsons_eq_map]

/-- A doc that is not there is written as `null`, by the outline too. -/
@[simp] theorem Subclass.json_outline (sub : Subclass) : sub.outline.json = sub.toJson := by
  simp [Subclass.outline, Subclass.toJson, Outline.json, Slot.entries, Slot.required,
    Slot.optional, Outline.jsons_eq_map]

end ScopeGen
