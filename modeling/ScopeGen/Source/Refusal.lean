import ScopeGen.Scope

/-!
# Source/Refusal — why a document is not read

A reader refuses a document that lacks a field, repeats one, names an unknown alternative or holds
a text that names no scope.  It also refuses what is not of the expected type, and then says what it
found there and what was expected (`invalidType`).  What can be at fault in the text of a document,
before any type is asked for, is not told apart (`malformed`).
-/

namespace ScopeGen

/-- What stands in a document where something else was expected. -/
inductive Unexpected where
  | null
  | flag (b : Bool)
  /-- an integer of 64 bits, with or without a sign -/
  | integer (n : Int)
  /-- any other number, as it is written -/
  | decimal (text : String)
  | text (text : String)
  | list
  | record
  /-- the name of an alternative, without content -/
  | bareName
deriving DecidableEq

/-- Why a document is not read. -/
inductive Refusal where
  | missingField (name : String)
  | duplicateField (name : String)
  | unknownVariant (name : String) (known : List String)
  | scope (error : Scope.Error)
  | invalidType (found : Unexpected) (expected : String)
  /-- an integer that is too large for the type -/
  | invalidValue (found : Unexpected) (expected : String)
  /-- a record without names of fields that ends after so many of them -/
  | invalidLength (length : Nat) (expected : String)
  /-- no alternative is named, or more stands beside the one that is -/
  | expectedValue
  /-- something follows where nothing may -/
  | trailing
  /-- more lists and records inside each other than are read -/
  | tooDeep
  | malformed
deriving DecidableEq

namespace Refusal

/-- A name between grave accents. -/
def ticked (name : String) : String := "`" ++ name ++ "`"

/-- The names that would have been accepted. -/
def expected : List String → String
  | [a, b] => "expected " ++ ticked a ++ " or " ++ ticked b
  | known => "expected one of " ++ ", ".intercalate (known.map ticked)

/-- The wording of a refusal, when it is the same for all kinds of documents. -/
def message? : Refusal → Option String
  | .missingField name => some ("missing field " ++ ticked name)
  | .duplicateField name => some ("duplicate field " ++ ticked name)
  | .unknownVariant name known => some ("unknown variant " ++ ticked name ++ ", " ++ expected known)
  | .scope error => some error.message
  | .invalidType .. | .invalidValue .. | .invalidLength .. | .expectedValue | .trailing | .tooDeep
  | .malformed => none

end Refusal

end ScopeGen
