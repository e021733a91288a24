import ScopeGen.Yaml.Cursor

/-!
# Yaml/Scalar/Block — texts in lines of their own

A block text consists of the lines that are indented as its first one, or as its header says.  A
literal text keeps its breaks; a folded one turns a break between two lines into a space, unless
one of them is indented further.
-/

namespace ScopeGen.Yaml.Block

/-- What becomes of the breaks at the end of the text. -/
inductive Chomp where
  | strip
  | clip
  | keep

/-- The breaks that a text ends with, the break of its last line first. -/
def Chomp.ending (last : List Char) (more : List Char) : Chomp → List Char
  | .strip => []
  | .clip => last
  | .keep => last ++ more

def chomp? : Char → Option Chomp
  | '-' => some .strip
  | '+' => some .keep
  | _ => none

/-- The indentation that a digit of a header gives; zero is none. -/
def increment? (c : Char) : Option Nat :=
  if c.isDigit && c != '0' then some (c.toNat - '0'.toNat) else none

/-- What a header says of the last breaks and of the indentation, and how many characters it has.  A
zero is left to what follows, where it is refused. -/
def header : List Char → Chomp × Option Nat × Nat
  | [] => (.clip, none, 0)
  | [c] =>
    match chomp? c, increment? c with
    | some chomp, _ => (chomp, none, 1)
    | none, some n => (.clip, some n, 1)
    | none, none => (.clip, none, 0)
  | c :: d :: _ =>
    match chomp? c, increment? c with
    | some chomp, _ =>
      match increment? d with
      | some n => (chomp, some n, 2)
      | none => (chomp, none, 1)
    | none, some n =>
      match chomp? d with
      | some chomp => (chomp, some n, 2)
      | none => (.clip, some n, 1)
    | none, none => (.clip, none, 0)

/-- The breaks of empty lines, the largest column reached in them, and the place after them and the
indentation that follows.  No tab may stand in the indentation. -/
def emptyLines? (indent : Option Nat) (c : Cursor) : Option (List Char × Nat × Cursor) :=
  let spaces := (c.rest.takeWhile (· == ' ')).length
  let c' := c.skip (indent.elim spaces fun n => min spaces (n - c.column))
  if indent.all (c'.column < ·) && c'.rest.head? == some '\t' then
    none
  else
    match _ : c'.break? with
    | none => some ([], c'.column, c')
    | some (b, next) => do
      let (breaks, column, c'') ← emptyLines? indent next
      return (b :: breaks, max c'.column column, c'')
termination_by c.rest.length
decreasing_by
  have := Cursor.length_of_break? ‹_›
  have : c'.rest.length ≤ c.rest.length := by simp [c', Cursor.skip]
  omega

/-- The lines of a text.  `last` is the break of the line before, `spaced` whether that line begins
with a space, and `empty` the breaks of the empty lines since. -/
def lines? (literal : Bool) (chomp : Chomp) (indent : Nat) (last : List Char) (spaced : Bool)
    (empty : List Char) (c : Cursor) : Option (List Char × Cursor) :=
  if c.column != indent || c.rest.isEmpty then
    some (chomp.ending last empty, c)
  else do
    let spaced' := c.rest.head?.any isGap
    let joint :=
      if !literal && last == ['\n'] && !spaced && !spaced' then
        if empty.isEmpty then [' '] else empty
      else
        last ++ empty
    let c' := c.skipLine
    let last' := (c'.break?.map (·.1)).toList
    let (empty', _, c'') ← emptyLines? (some indent) c'.skipBreak
    if c''.rest.length < c.rest.length then
      let (text, c'') ← lines? literal chomp indent last' spaced' empty' c''
      return (joint ++ c.rest.takeWhile (!isBreak ·) ++ text, c'')
    else
      none
termination_by c.rest.length

/-- The text whose header stands next; the collection around it is indented to `outer`. -/
def scan? (literal : Bool) (outer : Option Nat) (c : Cursor) : Option (List Char × Cursor) := do
  let (chomp, increment, length) := header c.rest
  let c ← (c.skip length).endLine?
  let least := outer.elim 0 (· + 1)
  let indent := increment.map fun n => outer.getD 0 + n
  let (empty, column, c) ← emptyLines? indent c
  lines? literal chomp (indent.getD (max (max column least) 1)) [] false empty c

end ScopeGen.Yaml.Block
