import ScopeGen.Text.Hex
import ScopeGen.Yaml.Scalar.Fold

/-!
# Yaml/Scalar/Quoted — texts in quotes

In single quotes a quote is written twice and nothing else is special.  In double quotes a
backslash begins an escape, and one at the end of a line joins the line to the next.
-/

namespace ScopeGen.Yaml.Quoted

/-- The number that `n` hexadecimal digits write, and what follows them. -/
def hex? : Nat → Nat → List Char → Option (Nat × List Char)
  | 0, value, rest => some (value, rest)
  | _ + 1, _, [] => none
  | n + 1, value, c :: rest => do hex? n (16 * value + (← hexDigit? c)) rest

/-- The character that `n` hexadecimal digits name, and what follows them. -/
def hexChar? (n : Nat) (cs : List Char) : Option (Char × List Char) := do
  let (value, rest) ← hex? n 0 cs
  if h : value.isValidChar then
    return (Char.ofNatAux value h, rest)
  else
    none

/-- The character that an escape stands for, after its backslash, and what follows it. -/
def escape? : List Char → Option (Char × List Char)
  | [] => none
  | c :: rest =>
    match c with
    | '0' => some ('\x00', rest)
    | 'a' => some ('\x07', rest)
    | 'b' => some ('\x08', rest)
    | 't' | '\t' => some ('\t', rest)
    | 'n' => some ('\n', rest)
    | 'v' => some ('\x0b', rest)
    | 'f' => some ('\x0c', rest)
    | 'r' => some ('\r', rest)
    | 'e' => some ('\x1b', rest)
    | ' ' => some (' ', rest)
    | '"' => some ('"', rest)
    | '/' => some ('/', rest)
    | '\\' => some ('\\', rest)
    | 'N' => some ('\u0085', rest)
    | '_' => some ('\u00a0', rest)
    | 'L' => some ('\u2028', rest)
    | 'P' => some ('\u2029', rest)
    | 'x' => hexChar? 2 rest
    | 'u' => hexChar? 4 rest
    | 'U' => hexChar? 8 rest
    | _ => none

/-- How a word in quotes ends. -/
inductive End where
  /-- the closing quote is next -/
  | quote
  /-- a gap is next, or the text ends -/
  | gap
  /-- a break is next that a backslash has joined -/
  | joined
deriving DecidableEq

/-- A word in single quotes, how it ends, and what follows it. -/
def singleWord : List Char → List Char × End × List Char
  | [] => ([], .gap, [])
  | '\'' :: '\'' :: rest =>
    let (word, last, rest) := singleWord rest
    ('\'' :: word, last, rest)
  | '\'' :: rest => ([], .quote, '\'' :: rest)
  | c :: rest =>
    if isGap c || isBreak c then
      ([], .gap, c :: rest)
    else
      let (word, last, rest) := singleWord rest
      (c :: word, last, rest)

/-- A word in double quotes, how it ends, and what follows it. -/
def doubleWord? (cs : List Char) : Option (List Char × End × List Char) :=
  match cs with
  | [] => some ([], .gap, [])
  | '"' :: rest => some ([], .quote, '"' :: rest)
  | '\\' :: rest =>
    if rest.head?.any isBreak then
      some ([], .joined, rest)
    else do
      let (c, rest') ← escape? rest
      if rest'.length < rest.length then
        let (word, last, rest) ← doubleWord? rest'
        return (c :: word, last, rest)
      else
        none
  | c :: rest =>
    if isGap c || isBreak c then
      some ([], .gap, c :: rest)
    else do
      let (word, last, rest) ← doubleWord? rest
      return (c :: word, last, rest)
termination_by cs.length

/-- The text that stands after an opening quote, and the place after its closing quote.  A line in
it may not look like the start or the end of a document. -/
def scan? (double : Bool) (c : Cursor) : Option (List Char × Cursor) :=
  if c.atDocumentMark || c.rest.isEmpty then
    none
  else do
    let (word, last, rest) ←
      if double then doubleWord? c.rest else some (singleWord c.rest)
    let c' := c.skip (c.rest.length - rest.length)
    match last with
    | .quote => return (word, c'.skip)
    | .gap => do
      let (gap, c') ← c'.gap? 0
      if c'.rest.length < c.rest.length then
        let (text, c') ← scan? double c'
        return (word ++ gap.fold ++ text, c')
      else
        none
    | .joined => do
      let (breaks, c') ← (c'.skipBreak.skipWhile isGap).breaks? 0
      if c'.rest.length < c.rest.length then
        let (text, c') ← scan? double c'
        return (word ++ breaks ++ text, c')
      else
        none
termination_by c.rest.length

end ScopeGen.Yaml.Quoted
