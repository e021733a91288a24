import ScopeGen.Text.Hex
import ScopeGen.Yaml.Cursor

/-!
# Yaml/Tag — tags and the directives about them

A tag is written whole between angle brackets, or as a handle and a suffix; what a handle stands for
is declared by a directive.  In a tag any character can be written as the octets of its encoding.
-/

namespace ScopeGen.Yaml

/-- Part of a tag, as the octets of its encoding. -/
abbrev Octets := List UInt8

/-- A tag as it is written: a handle and a suffix.  A tag that is written whole has no handle. -/
structure Tag where
  handle : String
  suffix : Octets

/-- A line about the document that follows. -/
inductive Directive where
  | version (major minor : Nat)
  /-- tags with this handle begin with these octets -/
  | handle (handle : String) (start : Octets)

namespace Octets

/-- The characters that stand for themselves in a tag; commas and brackets do only where nothing
else is written beside the tag. -/
def isTagChar (brackets : Bool) (c : Char) : Bool :=
  isNameChar c || ";/?:@&=+$.!~*'()".toList.contains c || brackets && ",[]".toList.contains c

/-- An octet written as an escape, and what follows it. -/
def escape? : List Char → Option (UInt8 × List Char)
  | '%' :: a :: b :: rest => do
    return (UInt8.ofNat (16 * (← hexDigit? a) + (← hexDigit? b)), rest)
  | _ => none

/-- How many octets follow this one in the encoding of a character. -/
def trailing? (o : UInt8) : Option Nat :=
  if o < 0x80 then some 0
  else if 0xC0 ≤ o ∧ o < 0xE0 then some 1
  else if 0xE0 ≤ o ∧ o < 0xF0 then some 2
  else if 0xF0 ≤ o ∧ o < 0xF8 then some 3
  else none

/-- So many octets inside the encoding of a character, written as escapes, and what follows them. -/
def escapes? : Nat → List Char → Option (Octets × List Char)
  | 0, rest => some ([], rest)
  | n + 1, rest => do
    let (o, rest) ← escape? rest
    if 0x80 ≤ o ∧ o < 0xC0 then
      let (os, rest) ← escapes? n rest
      return (o :: os, rest)
    else
      none

/-- The part of a tag that stands next, and what follows it. -/
def scan? (brackets : Bool) (cs : List Char) : Option (Octets × List Char) :=
  match cs with
  | [] => some ([], [])
  | c :: rest =>
    if c == '%' then do
      let (o, rest') ← escape? cs
      let (os, rest') ← escapes? (← trailing? o) rest'
      if rest'.length ≤ rest.length then
        let (more, rest) ← scan? brackets rest'
        return (o :: os ++ more, rest)
      else
        none
    else if isTagChar brackets c then do
      let (more, rest) ← scan? brackets rest
      return (UInt8.ofNat c.toNat :: more, rest)
    else
      some ([], cs)
termination_by cs.length
decreasing_by
  all_goals
    simp
    try omega

/-- As `scan?`, of at least one character; the octets end before a zero. -/
def scanSome? (brackets : Bool) (cs : List Char) : Option (Octets × List Char) := do
  let (os, rest) ← scan? brackets cs
  if os.isEmpty then none else some (os.takeWhile (· != 0), rest)

/-- The octets of a text. -/
def ofChars (cs : List Char) : Octets := cs.map fun c => UInt8.ofNat c.toNat

/-- The text that the octets encode. -/
def text? (os : Octets) : Option String := String.fromUTF8? ⟨os.toArray⟩

end Octets

/-- The tag that stands next, and what follows it. -/
def Tag.scan? : List Char → Option (Tag × List Char)
  | '!' :: '<' :: rest => do
    let (suffix, rest) ← Octets.scanSome? true rest
    match rest with
    | '>' :: rest => some (⟨"", suffix⟩, rest)
    | _ => none
  | '!' :: rest =>
    let name := rest.takeWhile isNameChar
    match rest.dropWhile isNameChar with
    | '!' :: rest => do
      let (suffix, rest) ← Octets.scanSome? false rest
      return (⟨"!" ++ String.ofList name ++ "!", suffix⟩, rest)
    | rest => do
      let (suffix, rest) ← Octets.scan? false rest
      let suffix := Octets.ofChars name ++ suffix.takeWhile (· != 0)
      return (if suffix.isEmpty then ⟨"", Octets.ofChars ['!']⟩ else ⟨"!", suffix⟩, rest)
  | _ => none

/-- A number of at most nine digits, and what follows it. -/
def versionPart? (cs : List Char) : Option (Nat × List Char) :=
  let digits := cs.takeWhile Char.isDigit
  if digits.isEmpty || 9 < digits.length then none
  else some (Nat.ofDigitChars 10 digits 0, cs.dropWhile Char.isDigit)

/-- The handle that a directive declares, and what follows it. -/
def declaredHandle? : List Char → Option (String × List Char)
  | '!' :: rest =>
    let name := rest.takeWhile isNameChar
    match rest.dropWhile isNameChar with
    | '!' :: rest => some ("!" ++ String.ofList name ++ "!", rest)
    | rest => if name.isEmpty then some ("!", rest) else none
  | _ => none

/-- The directive that stands next, after its percent sign, and what follows it in its line. -/
def Directive.scan? (cs : List Char) : Option (Directive × List Char) := do
  let rest := cs.dropWhile isNameChar
  if !atWordEnd rest then
    none
  let rest := rest.dropWhile isGap
  match String.ofList (cs.takeWhile isNameChar) with
  | "YAML" =>
    let (major, rest) ← versionPart? rest
    match rest with
    | '.' :: rest =>
      let (minor, rest) ← versionPart? rest
      return (.version major minor, rest)
    | _ => none
  | "TAG" =>
    let (name, rest) ← declaredHandle? rest
    if !rest.head?.any isGap then
      none
    let (start, rest) ← Octets.scanSome? true (rest.dropWhile isGap)
    if atWordEnd rest then
      return (.handle name start, rest)
    else
      none
  | _ => none

end ScopeGen.Yaml
