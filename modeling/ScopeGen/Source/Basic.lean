import ScopeGen.Source.Refusal

/-!
# Source/Basic — reading typed values from documents

A **source** is a kind of document with the questions a reader asks of it: which text, number or
list it is, which entries a record has in it, which of several alternatives it names.  Readers of
lists, optional values, records and alternatives are built here once for all sources.  A reading
goes through a document in its own order and ends at the first refusal.
-/

namespace ScopeGen

/-- The shape of a record in a document. -/
inductive Shape (D : Type) where
  /-- entries in text order; a key that cannot be read has no text -/
  | named (entries : List (Option String × D))
  /-- the fields in order of declaration, without their names -/
  | positional (items : List D)

/-- How a document names one of several alternatives. -/
inductive Choice (D : Type) where
  | bare (name : String)
  /-- with content; `whole` says that the content is all there is -/
  | filled (name : String) (content : D) (whole : Bool)

/-- A kind of document `D`, read by actions of `M`. -/
class Source (D : Type) (M : outParam (Type → Type)) where
  /-- how deep values can be nested in a document -/
  depth : Nat
  text : D → M String
  int : D → M Int64
  flag : D → M Bool
  /-- accepts a document that stands for nothing -/
  unit : D → M Unit
  items : D → M (List D)
  /-- the document itself unless it stands for nothing -/
  optional : D → M (Option D)
  /-- the record that the document is; `expected` says which record it should be -/
  shape (expected : String) : D → M (Shape D)
  choice : D → M (Choice D)
  /-- passes over a document that nobody asks for -/
  pass : D → M Unit

namespace Source

variable {D : Type} {M : Type → Type} [Monad M] [MonadExcept Refusal M] [Source D M] {α ρ : Type}

/-- The items of a list, read in turn. -/
def listOf (read : D → M α) (d : D) : M (List α) := do (← items d).mapM read

/-- A value that may be left out. -/
def optionOf (read : D → M α) (d : D) : M (Option α) := do
  match ← optional d with
  | none => return none
  | some d => return some (← read d)

/-- The scope that a text names. -/
def scope (d : D) : M Scope := do
  match Scope.ofString (← text d) with
  | .ok scope => return scope
  | .error e => throw (.scope e)

/-! ## Records -/

/-- When a field may be left out. -/
inductive Absence where
  | never
  /-- only where fields have names -/
  | named
  | always
deriving DecidableEq

/-- A field of a record `ρ`: its name and how it is read into the record. -/
structure Field (D : Type) (M : Type → Type) (ρ : Type) where
  name : String
  absence : Absence
  read : D → M (ρ → ρ)

/-- A field that has to be there. -/
def required (name : String) (read : D → M α) (set : α → ρ → ρ) : Field D M ρ :=
  ⟨name, .never, fun d => set <$> read d⟩

/-- A field that keeps the value of the blank record when it is left out. -/
def defaulted (name : String) (read : D → M α) (set : α → ρ → ρ) : Field D M ρ :=
  ⟨name, .always, fun d => set <$> read d⟩

/-- Reads entries in turn.  Keys that are no fields are passed over; a field stands at most once,
and the fields in `seen` have stood already. -/
def readNamed (fields : List (Field D M ρ)) :
    List String → ρ → List (Option String × D) → M ρ
  | seen, r, [] =>
    match fields.find? fun f => f.absence = .never ∧ f.name ∉ seen with
    | some f => throw (.missingField f.name)
    | none => pure r
  | _, _, (none, _) :: _ => throw .malformed
  | seen, r, (some key, d) :: rest =>
    match fields.find? (·.name = key) with
    | none => do
      pass d
      readNamed fields seen r rest
    | some f =>
      if key ∈ seen then
        throw (.duplicateField key)
      else do
        let set ← f.read d
        readNamed fields (key :: seen) (set r) rest

/-- Reads fields in order of declaration; those left out stand at the end.  So many stand `before`
these. -/
def readPositional (expected : String) : Nat → List (Field D M ρ) → ρ → List D → M ρ
  | before, fields, r, [] =>
    match fields.findIdx? (·.absence ≠ .always) with
    | some i => throw (.invalidLength (before + i) expected)
    | none => pure r
  | _, [], _, _ :: _ => throw .trailing
  | before, f :: fields, r, d :: rest => do
    let set ← f.read d
    readPositional expected (before + 1) fields (set r) rest

/-- How many fields a record without names has to have. -/
def elements : Nat → String
  | 1 => "1 element"
  | n => n.repr ++ " elements"

/-- A record of this sort with these fields.  Reading starts from a blank record, of which every
required field is replaced. -/
def record (sort : String) (fields : List (Field D M ρ)) (blank : ρ) (d : D) : M ρ := do
  match ← shape sort d with
  | .named entries => readNamed fields [] blank entries
  | .positional items =>
    readPositional (sort ++ " with " ++ elements fields.length) 0 fields blank items

/-! ## Alternatives -/

/-- What an alternative stands for: a value, or a value read from its content, which makes it an
alternative of this sort. -/
inductive Case (D : Type) (M : Type → Type) (α : Type) where
  | bare (value : α)
  | filled (sort : String) (read : D → M α)

/-- One of several named alternatives. -/
def oneOf (cases : List (String × Case D M α)) (d : D) : M α := do
  let unknown (name : String) : Refusal := .unknownVariant name (cases.map (·.1))
  match ← choice d with
  | .bare name =>
    match cases.lookup name with
    | some (.bare value) => pure value
    | some (.filled sort _) => throw (.invalidType .bareName sort)
    | none => throw (unknown name)
  | .filled name content whole =>
    let value ←
      match cases.lookup name with
      | some (.bare value) => do
        unit content
        pure value
      | some (.filled _ read) => read content
      | none => throw (unknown name)
    if whole then pure value else throw .expectedValue

end Source

end ScopeGen
