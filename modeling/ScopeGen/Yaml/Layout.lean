import ScopeGen.Yaml.Scalar.Block
import ScopeGen.Yaml.Scalar.Plain
import ScopeGen.Yaml.Scalar.Quoted
import ScopeGen.Yaml.Token

/-!
# Yaml/Layout — from a text to its tokens

Going through a text keeps the indentations of the open block collections and, for every open
bracket and outside of all, the place where a **simple key** may have begun: a key without a mark
of its own, which only the colon after it shows to be one.  Then the mark is put in at that place.
-/

namespace ScopeGen.Yaml.Layout

/-- Where a simple key may have begun. -/
structure SimpleKey where
  /-- nothing but a key may stand there -/
  required : Bool
  /-- how many tokens stand before it -/
  before : Nat
  /-- how many octets of the text's encoding stand before it -/
  offset : Nat
  line : Nat
  column : Nat

/-- What is known at a place of a text. -/
structure State where
  cursor : Cursor
  tokens : Array Token := #[]
  /-- the columns of the open block collections, innermost first -/
  indents : List Nat := []
  /-- a simple key may begin here -/
  keyAllowed : Bool := true
  /-- the simple key inside the innermost bracket -/
  key : Option SimpleKey := none
  /-- the simple keys outside of it, one for each open bracket -/
  outerKeys : List (Option SimpleKey) := []

/-- A step through a text, which may be refused. -/
abbrev Step := StateT State Option

/-- Whether a bracket is open. -/
def State.flow (s : State) : Bool := !s.outerKeys.isEmpty

/-- Refuses the text. -/
def refuse {α : Type} : Step α := failure

/-- Puts a token behind all others. -/
def push (t : Token) : Step Unit := modify fun s => { s with tokens := s.tokens.push t }

/-- Goes over `n` characters. -/
def skip (n : Nat := 1) : Step Unit := modify fun s => { s with cursor := s.cursor.skip n }

/-- Says whether a simple key may begin at the next place. -/
def allowKey (allowed : Bool) : Step Unit := modify fun s => { s with keyAllowed := allowed }

/-! ## Simple keys -/

/-- How many octets behind the start of a simple key its colon may stand. -/
def keyLength : Nat := 1024

/-- The simple key, unless the place has left its line or gone too far; one that is required may not
be left. -/
def SimpleKey.keep? (c : Cursor) (key : Option SimpleKey) : Option (Option SimpleKey) :=
  match key with
  | none => some none
  | some k =>
    if k.line < c.line || k.offset + keyLength < c.offset then
      if k.required then none else some none
    else
      some key

/-- Forgets the simple keys that can be keys no longer. -/
def dropStaleKeys : Step Unit := do
  let s ← get
  let key ← SimpleKey.keep? s.cursor s.key
  let outerKeys ← s.outerKeys.mapM fun key => SimpleKey.keep? s.cursor key
  set { s with key, outerKeys }

/-- Forgets the innermost simple key, which may not be required. -/
def dropKey : Step Unit := do
  let s ← get
  if s.key.any (·.required) then
    refuse
  set { s with key := none }

/-- Takes this place for the start of a simple key, if one may begin here. -/
def saveKey : Step Unit := do
  let s ← get
  if s.keyAllowed then
    dropKey
    modify fun s => { s with
      key := some {
        required := !s.flow && s.indents.head? == some s.cursor.column
        before := s.tokens.size
        offset := s.cursor.offset
        line := s.cursor.line
        column := s.cursor.column } }

/-! ## Indentation -/

/-- Opens a block collection in this column, with a token behind so many others, unless one that
is indented as much is open. -/
def indent (column : Nat) (opening : Token) (before : Nat) : Step Unit :=
  modify fun s =>
    if s.flow || s.indents.head?.any (column ≤ ·) then
      s
    else
      { s with
        indents := column :: s.indents
        tokens := s.tokens.insertIdxIfInBounds before opening }

/-- Closes the block collections that are indented further than this column. -/
def dedent (column : Nat) : Step Unit :=
  modify fun s =>
    if s.flow then
      s
    else
      let closed := (s.indents.takeWhile (column < ·)).length
      { s with
        indents := s.indents.drop closed
        tokens := s.tokens ++ Array.replicate closed .closeBlock }

/-- Closes all block collections. -/
def dedentAll : Step Unit :=
  modify fun s =>
    if s.flow then
      s
    else
      { s with indents := [], tokens := s.tokens ++ Array.replicate s.indents.length .closeBlock }

/-! ## Tokens -/

/-- The start or the end of a document, or a directive. -/
def atLineStart (t : Token) : Step Unit := do
  dedentAll
  dropKey
  allowKey false
  push t

def documentMark (t : Token) : Step Unit := do
  atLineStart t
  skip 3

def directive : Step Unit := do
  let c := (← get).cursor
  let (d, rest) ← Directive.scan? c.rest.tail
  let c ← (c.skip (c.rest.length - rest.length)).endLine?
  atLineStart (.directive d)
  modify fun s => { s with cursor := c }

/-- An opening bracket. -/
def openFlow (t : Token) : Step Unit := do
  saveKey
  modify fun s => { s with key := none, outerKeys := s.key :: s.outerKeys }
  allowKey true
  skip
  push t

/-- A closing bracket. -/
def closeFlow (t : Token) : Step Unit := do
  dropKey
  modify fun s =>
    match s.outerKeys with
    | [] => s
    | key :: outerKeys => { s with key, outerKeys }
  allowKey false
  skip
  push t

def comma : Step Unit := do
  dropKey
  allowKey true
  skip
  push .comma

/-- A mark that opens a block collection where it stands, if none is open there. -/
def blockMark (opening : Token) : Step Unit := do
  let s ← get
  if !s.flow then
    if !s.keyAllowed then
      refuse
    indent s.cursor.column opening s.tokens.size

/-- The dash in front of an item. -/
def entry : Step Unit := do
  blockMark .openBlockSequence
  dropKey
  allowKey true
  skip
  push .entry

/-- The mark of a key. -/
def keyMark : Step Unit := do
  blockMark .openBlockMapping
  dropKey
  allowKey !(← get).flow
  skip
  push .key

/-- The colon in front of a value; what stands before it may turn out to be a simple key. -/
def value : Step Unit := do
  match (← get).key with
  | some k =>
    modify fun s => { s with key := none, tokens := s.tokens.insertIdxIfInBounds k.before .key }
    indent k.column .openBlockMapping k.before
    allowKey false
  | none =>
    blockMark .openBlockMapping
    allowKey !(← get).flow
  skip
  push .value

/-- An anchor or an alias. -/
def named (token : String → Token) : Step Unit := do
  saveKey
  allowKey false
  let c := (← get).cursor
  let name := c.rest.tail.takeWhile isNameChar
  let rest := c.rest.tail.dropWhile isNameChar
  if name.isEmpty || !(atWordEnd rest || rest.head?.any ("?:,]\x7d%@`".toList.contains ·)) then
    refuse
  skip (name.length + 1)
  push (token (String.ofList name))

def tag : Step Unit := do
  saveKey
  allowKey false
  let s ← get
  let (tag, rest) ← Tag.scan? s.cursor.rest
  if !(atWordEnd rest || s.flow && rest.head? == some ',') then
    refuse
  skip (s.cursor.rest.length - rest.length)
  push (.tag tag)

def blockScalar (literal : Bool) : Step Unit := do
  dropKey
  allowKey true
  let s ← get
  let (text, cursor) ← Block.scan? literal s.indents.head? s.cursor.skip
  set { s with cursor }
  push (.scalar false (String.ofList text))

def quotedScalar (double : Bool) : Step Unit := do
  saveKey
  allowKey false
  let s ← get
  let (text, cursor) ← Quoted.scan? double s.cursor.skip
  set { s with cursor }
  push (.scalar false (String.ofList text))

def plainScalar : Step Unit := do
  saveKey
  allowKey false
  let s ← get
  let (text, broken, cursor) ← Plain.scan? s.flow (s.indents.head?.elim 0 (· + 1)) [] false s.cursor
  set { s with cursor, keyAllowed := broken }
  push (.scalar true (String.ofList text))

/-- The characters that no plain text begins with. -/
def indicators : List Char := "-?:,[]\x7b\x7d#&*!|>'\"%@`".toList

/-- Whether a plain text can begin with `c`, where `rest` follows. -/
def startsPlain (flow : Bool) (c : Char) (rest : List Char) : Bool :=
  !(indicators.contains c || isGap c || isBreak c) ||
    c == '-' && !rest.head?.any isGap ||
    !flow && (c == '?' || c == ':') && !atWordEnd rest

/-- The token that stands next and begins with `c`, where `rest` follows. -/
def token (c : Char) (rest : List Char) : Step Unit := do
  let s ← get
  if s.cursor.column == 0 && c == '%' then directive
  else if s.cursor.atMark '-' then documentMark .documentStart
  else if s.cursor.atMark '.' then documentMark .documentEnd
  else
    match c with
    | '[' => openFlow .openSequence
    | '\x7b' => openFlow .openMapping
    | ']' => closeFlow .closeSequence
    | '\x7d' => closeFlow .closeMapping
    | ',' => comma
    | '*' => named .alias
    | '&' => named .anchor
    | '!' => tag
    | '\'' => quotedScalar false
    | '"' => quotedScalar true
    | c =>
      if c == '-' && atWordEnd rest then entry
      else if c == '?' && (s.flow || atWordEnd rest) then keyMark
      else if c == ':' && (s.flow || atWordEnd rest) then value
      else if c == '|' && !s.flow then blockScalar true
      else if c == '>' && !s.flow then blockScalar false
      else if startsPlain s.flow c rest then plainScalar
      else refuse

/-! ## The whole text -/

/-- Goes over spaces, comments and breaks.  A tab counts as a space where no key may begin, and a
byte-order mark may begin a line. -/
def toNextToken (s : State) : State :=
  let c := s.cursor
  let c := if c.column == 0 && c.rest.head? == some '\ufeff' then c.skip else c
  let c := c.skipWhile fun x => x == ' ' || (s.flow || !s.keyAllowed) && x == '\t'
  let c := if c.rest.head? == some '#' then c.skipLine else c
  match c.break? with
  | none => { s with cursor := c }
  | some (_, c) =>
    if c.rest.length < s.cursor.rest.length then
      toNextToken { s with cursor := c, keyAllowed := s.keyAllowed || !s.flow }
    else
      s
termination_by s.cursor.rest.length

/-- The tokens from here to the end of the text. -/
def scanFrom? (s₀ : State) : Option (Array Token) := do
  let (_, s) ← dropStaleKeys.run (toNextToken s₀)
  let (_, s) ← (dedent s.cursor.column).run s
  match s.cursor.rest with
  | [] =>
    let (_, s) ← (do dedentAll; dropKey : Step Unit).run s
    return s.tokens
  | c :: rest =>
    let (_, s') ← (token c rest).run s
    if s'.cursor.rest.length < s₀.cursor.rest.length then scanFrom? s' else none
termination_by s₀.cursor.rest.length

/-- The tokens of a text. -/
def scan? (text : String) : Option (List Token) := do
  if text.toList.all isPrintable then
    return (← scanFrom? { cursor := { rest := text.toList } }).toList
  else
    none

end ScopeGen.Yaml.Layout
