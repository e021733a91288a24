import ScopeGen.Json.Draft
import ScopeGen.Source.Basic
import ScopeGen.Text.Int64

/-!
# Json/Source — reading typed values from JSON

Drafts are a source.  A record is an object or an array of its fields; an alternative is a string,
or an object with one entry whose key names it.  What is refused is told with what is found there
(`Draft.found?`).  `decode` reads a whole text.
-/

namespace ScopeGen.Json

namespace Draft

/-- A number without fraction and exponent, which is an integer where it has 64 bits. -/
def foundInt (n : Int) : Unexpected :=
  if Int64.minValue.toInt ≤ n ∧ n < UInt64.size then .integer n else .decimal n.repr

/-- What a reader sees that asks for something else; nothing when the text is at fault there. -/
def found? : Draft → Option Unexpected
  | .null => some .null
  | .bool b => some (.flag b)
  | .int n => some (foundInt n)
  | .decimal text => some (.decimal text)
  | .str text => text.map .text
  | .arr _ => some .list
  | .obj _ => some .record
  | .deep outside => outside.found?
  | .broken => none

/-- Why a draft is not read as what is expected. -/
def mismatch (d : Draft) (expected : String) : Refusal :=
  match d.found? with
  | some found => .invalidType found expected
  | none => .malformed

/-- Why a number without fraction and exponent is not read as a signed integer: it is too large for
one, or it is no integer. -/
def overflow (n : Int) : Refusal :=
  match foundInt n with
  | .integer n => .invalidValue (.integer n) "i64"
  | found => .invalidType found "i64"

/-- Why a draft is not read as an alternative. -/
def unnamed (d : Draft) : Refusal :=
  if d.found?.isSome then .expectedValue else .malformed

end Draft

instance : Source Draft (Except Refusal) where
  depth := Draft.nestingLimit
  text
    | .str (some text) => .ok text
    | d => .error (d.mismatch "a string")
  int
    | .int n => (int64? n).elim (.error (Draft.overflow n)) .ok
    | d => .error (d.mismatch "i64")
  flag
    | .bool b => .ok b
    | d => .error (d.mismatch "a boolean")
  unit
    | .null => .ok ()
    | d => .error (d.mismatch "unit")
  items
    | .arr items => .ok items
    | .deep (.arr _) => .error .tooDeep
    | d => .error (d.mismatch "a sequence")
  optional
    | .null => .ok none
    | draft => .ok (some draft)
  shape expected
    | .obj entries => .ok (.named entries)
    | .arr items => .ok (.positional items)
    | .deep _ => .error .tooDeep
    | d => .error (d.mismatch expected)
  choice
    | .str (some name) => .ok (.bare name)
    | .obj ((some name, content) :: rest) => .ok (.filled name content rest.isEmpty)
    | .obj ((none, _) :: _) => .error .malformed
    | .deep (.obj _) => .error .tooDeep
    | d => .error d.unnamed
  pass draft := if draft.isSound then .ok () else .error .malformed

/-- The value that a text holds, as `read` finds it.  What follows the value counts only once the
value is read. -/
def decode {α : Type} (read : Draft → Except Refusal α) (text : String) : Except Refusal α := do
  let (draft, whole) := Draft.ofText text
  let value ← read draft
  if whole then pure value else throw .trailing

end ScopeGen.Json
