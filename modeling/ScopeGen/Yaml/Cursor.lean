/-!
# Yaml/Cursor — a place in a YAML text

The classes of characters that the layout of a YAML text rests on, and a **cursor**: the rest of a
text with the place it starts at.
-/

namespace ScopeGen.Yaml

/-! ## Characters -/

/-- The characters that a text may hold. -/
def isPrintable (c : Char) : Bool :=
  c == '\t' || c == '\n' || c == '\r' || c == '\u0085' || (' ' ≤ c && c ≤ '~') ||
    ('\u00a0' ≤ c && c ≤ '\ufffd') || 0x10000 ≤ c.toNat

/-- The characters that end a line. -/
def isBreak (c : Char) : Bool :=
  c == '\n' || c == '\r' || c == '\u0085' || c == '\u2028' || c == '\u2029'

/-- The characters that separate words in a line. -/
def isGap (c : Char) : Bool := c == ' ' || c == '\t'

/-- The characters of handles, anchors and directive names. -/
def isNameChar (c : Char) : Bool := c.isAlphanum || c == '_' || c == '-'

/-- Whether nothing of a word follows: the text ends, or a gap or a break stands next. -/
def atWordEnd : List Char → Bool
  | [] => true
  | c :: _ => isGap c || isBreak c

/-- Whether nothing of a line follows. -/
def atLineEnd : List Char → Bool
  | [] => true
  | c :: _ => isBreak c

/-- How many octets the encoding of the characters takes. -/
def octetCount (cs : List Char) : Nat := cs.foldl (fun count c => count + c.utf8Size) 0

/-! ## Cursors -/

/-- The rest of a text and where it starts. -/
structure Cursor where
  rest : List Char
  /-- how many octets of the text's encoding stand before -/
  offset : Nat := 0
  line : Nat := 0
  column : Nat := 0

namespace Cursor

/-- Goes over `n` characters of the line. -/
def skip (c : Cursor) (n : Nat := 1) : Cursor :=
  { c with
    rest := c.rest.drop n
    offset := c.offset + octetCount (c.rest.take n)
    column := c.column + n }

/-- Goes over the characters of the line that have the property. -/
def skipWhile (p : Char → Bool) (c : Cursor) : Cursor := c.skip (c.rest.takeWhile p).length

/-- Goes to the end of the line. -/
def skipLine (c : Cursor) : Cursor := c.skipWhile (!isBreak ·)

/-- Goes over a break of `n` characters to the next line. -/
def newLine (c : Cursor) (n : Nat) : Cursor := { c.skip n with line := c.line + 1, column := 0 }

/-- The break that stands next, as it is kept in a text, and the place after it.  The separators of
lines and of paragraphs are kept, every other break becomes a line feed. -/
def break? (c : Cursor) : Option (Char × Cursor) :=
  match c.rest with
  | '\r' :: '\n' :: _ => some ('\n', c.newLine 2)
  | b :: _ =>
    if b == '\u2028' || b == '\u2029' then some (b, c.newLine 1)
    else if isBreak b then some ('\n', c.newLine 1)
    else none
  | [] => none

/-- Goes over the break that stands next, if one does. -/
def skipBreak (c : Cursor) : Cursor := (c.break?.map (·.2)).getD c

/-- Goes over spaces and tabs, a comment and the end of the line, if nothing else follows. -/
def endLine? (c : Cursor) : Option Cursor :=
  let c := c.skipWhile isGap
  let c := if c.rest.head? = some '#' then c.skipLine else c
  if atLineEnd c.rest then some c.skipBreak else none

/-- Whether a line begins here with three of these characters and nothing of a word after them. -/
def atMark (c : Cursor) (mark : Char) : Bool :=
  c.column == 0 &&
    match c.rest with
    | x :: y :: z :: rest => x == mark && y == mark && z == mark && atWordEnd rest
    | _ => false

/-- Whether a line begins here that starts or ends a document. -/
def atDocumentMark (c : Cursor) : Bool := c.atMark '-' || c.atMark '.'

theorem length_of_break? {c c' : Cursor} {b : Char} (h : c.break? = some (b, c')) :
    c'.rest.length < c.rest.length := by
  unfold break? newLine skip at h
  repeat' split at h
  all_goals
    simp only [Option.some.injEq, Prod.mk.injEq, reduceCtorEq] at h
    try
      obtain ⟨_, rfl⟩ := h
      simp only [*, List.length_drop, List.length_cons]
      omega

end Cursor

end ScopeGen.Yaml
