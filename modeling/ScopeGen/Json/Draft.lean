import ScopeGen.Json.Token

/-!
# Json/Draft — what can be read of a JSON text

A **draft** is a JSON value as far as its text is sound.  From the first fault on nothing is read:
a draft holds `broken` there, and every array and object that is still open ends with it.  A reader
that goes through a draft in text order meets its own errors before the fault and the fault before
anything else.
-/

namespace ScopeGen.Json

/-- A JSON value as far as it could be read. -/
inductive Draft where
  | null
  | bool (b : Bool)
  /-- a number without fraction and exponent that is not a negative zero -/
  | int (n : Int)
  /-- any other number, as it is written -/
  | decimal (text : String)
  /-- a string; it has no text when an escape in it names half of a surrogate pair alone -/
  | str (text : Option String)
  | arr (items : List Draft)
  /-- an object; a key has no text when it is faulty or when nothing more could be read -/
  | obj (entries : List (Option String × Draft))
  /-- an array or an object that is nested too deep to be entered and may only be passed over -/
  | deep (outside : Draft)
  /-- stands where the text is at fault -/
  | broken

namespace Draft

/-! ## From tokens -/

/-- An array or an object that is still open, with what it holds so far, last part first. -/
inductive Frame where
  | arr (items : List Draft)
  | obj (entries : List (Option String × Draft)) (key : Option String)

/-- The draft of a frame that holds `last` in the end. -/
def Frame.close (last : Draft) : Frame → Draft
  | .arr items => .arr (last :: items).reverse
  | .obj entries key => .obj ((key, last) :: entries).reverse

/-- What may stand next in a text. -/
inductive Expect where
  | value
  /-- the first item of an array, or its end -/
  | firstItem
  /-- the first key of an object, or its end -/
  | firstKey
  /-- a further key of an object that holds these entries, last one first -/
  | key (entries : List (Option String × Draft))
  /-- the colon after a key -/
  | colon (entries : List (Option String × Draft)) (key : Option String)
  /-- what follows this value inside the innermost frame -/
  | next (last : Draft)

/-- The value that a token is by itself. -/
def ofToken? : Token → Option Draft
  | .null => some .null
  | .bool b => some (.bool b)
  | .int n => some (.int n)
  | .decimal text => some (.decimal text)
  | .str text => some (.str text)
  | _ => none

/-- What is expected after a token that begins a value. -/
def start? (t : Token) (frames : List Frame) : Option (Expect × List Frame) :=
  match t with
  | .openArray => some (.firstItem, frames)
  | .openObject => some (.firstKey, frames)
  | t => (ofToken? t).map fun draft => (.next draft, frames)

/-- What is expected after a token; none when the token may not stand there. -/
def step? (t : Token) : Expect → List Frame → Option (Expect × List Frame)
  | .value, frames => start? t frames
  | .firstItem, frames =>
    match t with
    | .closeArray => some (.next (.arr []), frames)
    | t => start? t (.arr [] :: frames)
  | .firstKey, frames =>
    match t with
    | .closeObject => some (.next (.obj []), frames)
    | .str key => some (.colon [] key, frames)
    | _ => none
  | .key entries, frames =>
    match t with
    | .str key => some (.colon entries key, frames)
    | _ => none
  | .colon entries key, frames =>
    match t with
    | .colon => some (.value, .obj entries key :: frames)
    | _ => none
  | .next last, .arr items :: frames =>
    match t with
    | .comma => some (.value, .arr (last :: items) :: frames)
    | .closeArray => some (.next (.arr (last :: items).reverse), frames)
    | _ => none
  | .next last, .obj entries key :: frames =>
    match t with
    | .comma => some (.key ((key, last) :: entries), frames)
    | .closeObject => some (.next (.obj ((key, last) :: entries).reverse), frames)
    | _ => none
  | .next _, [] => none

/-- The draft of a text that breaks off here. -/
def halt : Expect → List Frame → Draft
  | .value, frames => frames.foldl Frame.close .broken
  | .firstItem, frames => frames.foldl Frame.close (.arr [.broken])
  | .firstKey, frames => frames.foldl Frame.close (.obj [(none, .broken)])
  | .key entries, frames => frames.foldl Frame.close (.obj ((none, .broken) :: entries).reverse)
  | .colon entries key, frames =>
    frames.foldl Frame.close (.obj ((key, .broken) :: entries).reverse)
  | .next last, .arr items :: frames =>
    frames.foldl Frame.close (.arr (.broken :: last :: items).reverse)
  | .next last, .obj entries key :: frames =>
    frames.foldl Frame.close (.obj ((none, .broken) :: (key, last) :: entries).reverse)
  | .next last, [] => last

/-- Goes through the tokens and gives the first value with the tokens after it; nothing stands after
a value that breaks off. -/
def build : List Token → Expect → List Frame → Draft × Option (List Token)
  | tokens, .next last, [] => (last, some tokens)
  | [], expect, frames => (halt expect frames, none)
  | t :: tokens, expect, frames =>
    match step? t expect frames with
    | some (expect, frames) => build tokens expect frames
    | none => (halt expect frames, none)

/-! ## Soundness and depth -/

mutual

/-- Whether there is no fault in the draft. -/
def isSound : Draft → Bool
  | .broken => false
  | .arr items => areSound items
  | .obj entries => areEntriesSound entries
  | .deep outside => isSound outside
  | _ => true

/-- Whether there is no fault in any of the items. -/
def areSound : List Draft → Bool
  | [] => true
  | draft :: rest => isSound draft && areSound rest

def areEntriesSound : List (Option String × Draft) → Bool
  | [] => true
  | (_, draft) :: rest => isSound draft && areEntriesSound rest

end

/-- The draft with no more than so many arrays and objects inside each other; what is nested deeper
may only be passed over. -/
def prune : Nat → Draft → Draft
  | 0, .arr items => .deep (.arr items)
  | 0, .obj entries => .deep (.obj entries)
  | n + 1, .arr items => .arr (items.map (prune n))
  | n + 1, .obj entries => .obj (entries.map fun (key, draft) => (key, prune n draft))
  | _, draft => draft

/-- How many arrays and objects may be nested in a text that is read. -/
def nestingLimit : Nat := 127

/-- The draft of a text, and whether the text is one whole value and nothing else. -/
def ofText (text : String) : Draft × Bool :=
  let (draft, rest) := build (Token.scanAll text.toList) .value []
  (draft.prune nestingLimit, rest == some [])

end Draft

end ScopeGen.Json
