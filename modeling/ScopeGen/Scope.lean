import ScopeGen.Text.Affix
import ScopeGen.Text.Alphanumeric

/-!
# Scope — scope names and the names made from them

A **scope** is named by a fragment that is appended to class names and written inside marker names,
so it may start with a digit but holds only letters, numbers and underscores.  `Scope.ofString`
reads one and says what is wrong with any other text: `ofString_eq_ok_iff` and
`ofString_eq_invalidCharacter_iff` say when.
-/

namespace ScopeGen

/-- What stands between a class name and a scope, and at the end of every marker. -/
def scopeSuffix : String := "Scope"

/-- What tells the marker of an initializer from that of a member. -/
def initPrefix : String := "Init"

/-- The characters a scope name may hold. -/
def isScopeChar (c : Char) : Bool := isAlphanumeric c || c == '_'

/-- A text that may name a scope. -/
def ValidScope (name : String) : Prop :=
  name ≠ "" ∧ ∀ c ∈ name.toList, isScopeChar c

instance (name : String) : Decidable (ValidScope name) :=
  inferInstanceAs (Decidable (_ ∧ _))

/-- The name of a scope. -/
@[ext] structure Scope where
  name : String
  valid : ValidScope name
deriving DecidableEq

namespace Scope

/-- Why a text names no scope. -/
inductive Error where
  | empty
  | invalidCharacter (name : String) (c : Char)
deriving DecidableEq, Repr

/-- The wording of an error. -/
def Error.message : Error → String
  | .empty => "Scope name must not be empty"
  | .invalidCharacter name c =>
    "Invalid character '" ++ c.toString ++ "' in scope name '" ++ name ++
      "': only letters, digits and '_' are allowed"

/-- The scope that a text names; the first character that may not stand in a name is reported. -/
def ofString (name : String) : Except Error Scope :=
  if nonempty : name = "" then
    .error .empty
  else
    match h : name.toList.find? (!isScopeChar ·) with
    | some c => .error (.invalidCharacter name c)
    | none => .ok ⟨name, nonempty, by simpa using h⟩

/-- **A text names the scope of that name**, and no other. -/
theorem ofString_eq_ok_iff {name : String} {scope : Scope} :
    ofString name = .ok scope ↔ scope.name = name := by
  constructor
  · unfold ofString
    split
    · simp
    · split
      · simp
      · rintro ⟨⟩; rfl
  · rintro rfl
    obtain ⟨name, nonempty, chars⟩ := scope
    have h : name.toList.find? (!isScopeChar ·) = none := by simpa using chars
    simp only [ofString, nonempty, dite_false]
    split
    · next c found => nomatch h.symm.trans found
    · rfl

/-- The first character that may not stand in a name is what is told. -/
theorem ofString_eq_invalidCharacter_iff {name other : String} {c : Char} :
    ofString name = .error (.invalidCharacter other c) ↔
      other = name ∧ name.toList.find? (!isScopeChar ·) = some c := by
  unfold ofString
  split
  · simp_all
  · split <;> grind

theorem ofString_eq_empty_iff {name : String} : ofString name = .error .empty ↔ name = "" := by
  unfold ofString
  split
  · simp_all
  · split <;> simp_all

@[simp] theorem ofString_name (scope : Scope) : ofString scope.name = .ok scope :=
  ofString_eq_ok_iff.2 rfl

/-- The name of the annotation that marks a method as part of the scope. -/
def memberMarker (scope : Scope) : String := "@" ++ scope.name ++ scopeSuffix

/-- The name of the annotation that marks a method as initializing the scope. -/
def initializerMarker (scope : Scope) : String := "@" ++ initPrefix ++ scope.name ++ scopeSuffix

/-- The name of the class generated for a class in the scope. -/
def classNameFor (scope : Scope) (className : String) : String :=
  className ++ scopeSuffix ++ scope.name

/-- Scopes in the order of their names, by code point; equal ones are kept. -/
def sort (scopes : List Scope) : List Scope := scopes.mergeSort fun a b => a.name ≤ b.name

/-- Each scope once, where it first stands. -/
def distinct (scopes : List Scope) : List Scope := scopes.eraseDups

end Scope

end ScopeGen
