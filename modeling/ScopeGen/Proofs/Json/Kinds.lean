import ScopeGen.Proofs.Json.Agreement
import ScopeGen.Proofs.Json.RoundTrip

/-!
# Proofs/Json/Kinds — what each part of a document is read as

    class        name : text    members : list of methods    scope_annotations : list of annotations
    method       signature : signature    annotations : list of annotations

The types of the model and what they are made of are **kinds** of documents.  A kind of record lists
its fields in order of declaration, with what each is read as and whether it has to be there
(`Kind.fields?`); a kind of alternatives lists what the content of each is read as
(`Kind.alternatives`).  These tables are what the readers go by (`Kind.exists_reads`,
`Kind.exists_cases`).
-/

namespace ScopeGen

open Json Source

/-- What a document, or a part of it, is read as. -/
inductive Kind where
  | of (s : Schema)
  /-- the content of a call that is written under this name: the called method, in a record -/
  | callee (name : String)
  | text
  | int
  | flag
  | optionalText
  | list (item : Kind)

/-- A field of a record as it is declared. -/
structure FieldKind where
  name : String
  required : Bool
  kind : Kind

namespace Kind

/-- What is found. -/
def Carrier : Kind → Type
  | of s => s.Carrier
  | callee _ | text => String
  | int => Int64
  | flag => Bool
  | optionalText => Option String
  | list item => List item.Carrier

/-- How a document is read as this kind. -/
def read : (k : Kind) → Draft → Except Refusal k.Carrier
  | of s => s.read
  | callee name => Call.readContent name
  | text => Source.text
  | int => Source.int
  | flag => Source.flag
  | optionalText => optionOf Source.text
  | list item => listOf item.read

/-! ## Records -/

/-- The fields of a record in order of declaration.  A field has to be there unless it has a default
or may hold nothing. -/
def fields? : Kind → Option (List FieldKind)
  | of .cls => some [
      ⟨"name", true, text⟩,
      ⟨"members", false, list (of .method)⟩,
      ⟨"scope_annotations", false, list (of .annot)⟩]
  | of .method => some [
      ⟨"signature", true, of .signature⟩,
      ⟨"annotations", false, list (of .annot)⟩]
  | of .signature => some [
      ⟨"name", true, text⟩,
      ⟨"parameters", false, list (of .parameter)⟩,
      ⟨"return_type", false, text⟩,
      ⟨"modifiers", false, list text⟩]
  | of .parameter => some [
      ⟨"name", true, text⟩,
      ⟨"ty", true, text⟩]
  | of .annot => some [
      ⟨"name", true, text⟩,
      ⟨"members", false, list (of .member)⟩,
      ⟨"kind", false, of .marker⟩]
  | of .member => some [
      ⟨"name", true, text⟩,
      ⟨"value", true, of .value⟩]
  | of .subclass => some [
      ⟨"name", true, text⟩,
      ⟨"package_name", true, text⟩,
      ⟨"superclass_name", true, text⟩,
      ⟨"doc", false, optionalText⟩,
      ⟨"modifiers", true, list text⟩,
      ⟨"class_annotations", true, list (of .annot)⟩,
      ⟨"methods", true, list (of .override)⟩]
  | of .override => some [
      ⟨"signature", true, of .signature⟩,
      ⟨"role", true, of .role⟩,
      ⟨"body", true, list (of .call)⟩]
  | callee _ => some [
      ⟨"method", true, text⟩]
  | _ => none

end Kind

/-- The reader of a field goes by the declaration. -/
structure FieldKind.ReadBy {ρ : Type} (f : DraftField ρ) (declared : FieldKind) : Prop where
  name : f.name = declared.name
  absence : f.absence = .never ↔ declared.required
  read : ∃ set : declared.kind.Carrier → ρ → ρ, f.read = fun d => set <$> declared.kind.read d

namespace FieldKind.ReadBy

variable {ρ : Type} (name : String) (kind : Kind) (set : kind.Carrier → ρ → ρ)

theorem required : ReadBy (Source.required name kind.read set) ⟨name, true, kind⟩ :=
  ⟨rfl, iff_of_true rfl rfl, set, rfl⟩

theorem defaulted : ReadBy (Source.defaulted name kind.read set) ⟨name, false, kind⟩ :=
  ⟨rfl, iff_of_false nofun nofun, set, rfl⟩

end FieldKind.ReadBy

namespace Kind

/-- What the content of each alternative is read as. -/
def alternatives : Kind → List (String × Kind)
  | of .value => [("String", text), ("Integer", int), ("Bool", flag), ("Type", text),
      ("Enum", text), ("Annotation", of .annot), ("List", list (of .value))]
  | of .marker => [("Member", of .scope), ("Initializer", of .scope)]
  | of .call => [("SuperCall", callee "SuperCall"), ("SelfCall", callee "SelfCall")]
  | _ => []

end Kind

end ScopeGen
