import ScopeGen.Text.Affix
import ScopeGen.Text.Hex

/-!
# Json/Token — the tokens of a JSON text

`Token.scanAll` cuts a text into tokens and drops the blanks between them.  Where no token can be
read it puts the token `unreadable` and stops, so that what stands before a fault can still be used.
-/

namespace ScopeGen.Json

/-- A token of a JSON text. -/
inductive Token where
  | openArray
  | closeArray
  | openObject
  | closeObject
  | comma
  | colon
  | null
  | bool (b : Bool)
  /-- a number without fraction and exponent that is not a negative zero -/
  | int (n : Int)
  /-- any other number, as it is written -/
  | decimal (text : String)
  /-- a string; it has no text when an escape in it names half of a surrogate pair alone -/
  | str (text : Option String)
  /-- stands where no token can be read -/
  | unreadable
deriving DecidableEq

namespace Token

/-- The characters that may stand between tokens. -/
def isSpace (c : Char) : Bool := c == ' ' || c == '\t' || c == '\n' || c == '\r'

/-! ## Strings -/

/-- A piece of a string: a character, or a surrogate code written as an escape. -/
inductive Piece where
  | char (c : Char)
  | surrogate (code : Nat)

/-- The number that four hexadecimal digits write. -/
def hex4? (a b c d : Char) : Option Nat := do
  return (((← hexDigit? a) * 16 + (← hexDigit? b)) * 16 + (← hexDigit? c)) * 16 + (← hexDigit? d)

/-- The character that a backslash and this letter stand for. -/
def unescape? : Char → Option Char
  | '"' => some '"'
  | '\\' => some '\\'
  | '/' => some '/'
  | 'b' => some '\x08'
  | 'f' => some '\x0c'
  | 'n' => some '\n'
  | 'r' => some '\r'
  | 't' => some '\t'
  | _ => none

/-- The piece with this code. -/
def Piece.ofCode (code : Nat) : Piece :=
  if 0xD800 ≤ code ∧ code < 0xE000 then .surrogate code else .char (Char.ofNat code)

/-- The pieces of a string after its opening quote, and what follows its closing quote. -/
def pieces? : List Char → Option (List Piece × List Char)
  | [] => none
  | '"' :: rest => some ([], rest)
  | '\\' :: 'u' :: a :: b :: c :: d :: rest => do
    let code ← hex4? a b c d
    let (pieces, rest) ← pieces? rest
    return (.ofCode code :: pieces, rest)
  | '\\' :: e :: rest => do
    let c ← unescape? e
    let (pieces, rest) ← pieces? rest
    return (.char c :: pieces, rest)
  | c :: rest =>
    if c < ' ' ∨ c = '\\' then
      none
    else do
      let (pieces, rest) ← pieces? rest
      return (.char c :: pieces, rest)

/-- The characters that pieces make up; a surrogate needs its other half right beside it. -/
def join? : List Piece → Option (List Char)
  | [] => some []
  | .char c :: rest => (join? rest).map (c :: ·)
  | .surrogate high :: .surrogate low :: rest =>
    if high < 0xDC00 ∧ 0xDC00 ≤ low then
      (join? rest).map (Char.ofNat (0x10000 + (high - 0xD800) * 0x400 + (low - 0xDC00)) :: ·)
    else
      none
  | .surrogate _ :: _ => none

/-! ## Numbers -/

/-- A run of digits, at least one, and what follows it. -/
def digits? (cs : List Char) : Option (List Char × List Char) :=
  if (cs.takeWhile Char.isDigit).isEmpty then none
  else some (cs.takeWhile Char.isDigit, cs.dropWhile Char.isDigit)

/-- The sign that a text may begin with. -/
def sign : List Char → List Char
  | '+' :: _ => ['+']
  | '-' :: _ => ['-']
  | _ => []

/-- The text without that sign. -/
def dropSign : List Char → List Char
  | '+' :: rest => rest
  | '-' :: rest => rest
  | rest => rest

/-- The fraction of a number, empty if none follows, and the rest. -/
def fraction? : List Char → Option (List Char × List Char)
  | '.' :: rest => (digits? rest).map fun (digits, rest) => ('.' :: digits, rest)
  | rest => some ([], rest)

/-- An exponent after its letter, and the rest. -/
def power? (e : Char) (cs : List Char) : Option (List Char × List Char) :=
  (digits? (dropSign cs)).map fun (digits, rest) => (e :: (sign cs ++ digits), rest)

/-- The exponent of a number, empty if none follows, and the rest. -/
def exponent? : List Char → Option (List Char × List Char)
  | 'e' :: rest => power? 'e' rest
  | 'E' :: rest => power? 'E' rest
  | rest => some ([], rest)

/-- The token of a number with these digits in front of `after`, its fraction and its exponent. -/
def ofNumber (negative : Bool) (digits after : List Char) : Token :=
  let n := Nat.ofDigitChars 10 digits 0
  if after = [] ∧ ¬(negative ∧ n = 0) then
    .int (if negative then -n else n)
  else
    .decimal (String.ofList ((if negative then ['-'] else []) ++ (digits ++ after)))

/-- A number without its sign, and what follows it.  A zero in front of other digits is refused. -/
def number? (negative : Bool) (cs : List Char) : Option (Token × List Char) := do
  let (digits, rest) ← digits? cs
  let (fraction, rest) ← fraction? rest
  let (exponent, rest) ← exponent? rest
  if digits.head? = some '0' ∧ digits.length ≠ 1 then
    none
  else
    return (ofNumber negative digits (fraction ++ exponent), rest)

/-! ## Tokens -/

/-- The token that starts with `c`, and what follows it. -/
def scan? (c : Char) (cs : List Char) : Option (Token × List Char) :=
  match c with
  | '[' => some (.openArray, cs)
  | ']' => some (.closeArray, cs)
  | '\x7b' => some (.openObject, cs)
  | '\x7d' => some (.closeObject, cs)
  | ',' => some (.comma, cs)
  | ':' => some (.colon, cs)
  | 'n' => (['u', 'l', 'l'].isPrefixOf? cs).map fun rest => (.null, rest)
  | 't' => (['r', 'u', 'e'].isPrefixOf? cs).map fun rest => (.bool true, rest)
  | 'f' => (['a', 'l', 's', 'e'].isPrefixOf? cs).map fun rest => (.bool false, rest)
  | '"' => (pieces? cs).map fun (pieces, rest) => (.str ((join? pieces).map String.ofList), rest)
  | '-' => number? true cs
  | c => number? false (c :: cs)

/-! ## Each step shortens the text -/

/-- What is left behind a text is shorter than what stood there. -/
theorem length_of_pieces? {cs rest : List Char} {pieces : List Piece}
    (h : pieces? cs = some (pieces, rest)) : rest.length < cs.length := by
  fun_induction pieces? cs generalizing pieces rest with
  | case1 => simp at h
  | case2 => simp_all
  | case3 a b c d cs ih =>
    simp only [Option.bind_eq_bind, Option.bind_eq_some_iff] at h
    obtain ⟨_, _, ⟨p, r⟩, hp, h⟩ := h
    have := ih hp
    simp_all
    omega
  | case4 e cs _ ih =>
    simp only [Option.bind_eq_bind, Option.bind_eq_some_iff] at h
    obtain ⟨_, _, ⟨p, r⟩, hp, h⟩ := h
    have := ih hp
    simp_all
    omega
  | case5 => simp at h
  | case6 c cs _ _ _ _ ih =>
    simp only [Option.bind_eq_bind, Option.bind_eq_some_iff] at h
    obtain ⟨⟨p, r⟩, hp, h⟩ := h
    have := ih hp
    simp_all
    omega

theorem length_of_digits? {cs ds rest : List Char} (h : digits? cs = some (ds, rest)) :
    rest.length < cs.length := by
  have length := congrArg List.length (@List.takeWhile_append_dropWhile _ Char.isDigit cs)
  rw [List.length_append] at length
  simp only [digits?, List.isEmpty_iff] at h
  split at h <;> simp at h
  obtain ⟨rfl, rfl⟩ := h
  have := List.length_pos_iff.2 ‹_›
  omega

theorem length_dropSign_le (cs : List Char) : (dropSign cs).length ≤ cs.length := by
  unfold dropSign
  split <;> simp

theorem length_of_fraction? {cs fraction rest : List Char}
    (h : fraction? cs = some (fraction, rest)) : rest.length ≤ cs.length := by
  unfold fraction? at h
  split at h
  · obtain ⟨⟨ds, r⟩, hd, h⟩ := Option.map_eq_some_iff.1 h
    have := length_of_digits? hd
    simp_all
    omega
  · simp_all

theorem length_of_power? {e : Char} {cs power rest : List Char}
    (h : power? e cs = some (power, rest)) : rest.length ≤ cs.length := by
  obtain ⟨⟨ds, r⟩, hd, h⟩ := Option.map_eq_some_iff.1 h
  have := length_of_digits? hd
  have := length_dropSign_le cs
  simp_all
  omega

theorem length_of_exponent? {cs exponent rest : List Char}
    (h : exponent? cs = some (exponent, rest)) : rest.length ≤ cs.length := by
  unfold exponent? at h
  split at h
  case h_3 => simp_all
  all_goals exact Nat.le_succ_of_le (length_of_power? h)

/-- A number takes at least a digit. -/
theorem length_of_number? {negative : Bool} {cs rest : List Char} {t : Token}
    (h : number? negative cs = some (t, rest)) : rest.length < cs.length := by
  simp only [number?, Option.bind_eq_bind, Option.bind_eq_some_iff] at h
  obtain ⟨⟨ds, r⟩, hd, ⟨b, r'⟩, hf, ⟨b', r''⟩, he, h⟩ := h
  have := length_of_digits? hd
  have := length_of_fraction? hf
  have := length_of_exponent? he
  split at h <;> simp_all
  omega

theorem length_of_isPrefixOf? {start cs rest : List Char}
    (h : start.isPrefixOf? cs = some rest) : rest.length ≤ cs.length := by
  rw [isPrefixOf?_eq_some_iff_append.1 h, List.length_append]
  exact Nat.le_add_left _ _

/-- **Each token takes at least its first character**, so going through a text ends. -/
theorem length_of_scan? {c : Char} {cs rest : List Char} {t : Token}
    (h : scan? c cs = some (t, rest)) : rest.length ≤ cs.length := by
  unfold scan? at h
  split at h
  case h_10 =>
    obtain ⟨⟨ps, r⟩, hp, h⟩ := Option.map_eq_some_iff.1 h
    have := length_of_pieces? hp
    simp_all
    omega
  case h_11 => exact Nat.le_of_lt (length_of_number? h)
  case h_12 => exact Nat.le_of_lt_succ (length_of_number? h)
  case h_7 | h_8 | h_9 =>
    obtain ⟨r, hr, h⟩ := Option.map_eq_some_iff.1 h
    have := length_of_isPrefixOf? hr
    simp_all
  all_goals simp_all

/-- The tokens of a text. -/
def scanAll (cs : List Char) : List Token :=
  match cs with
  | [] => []
  | c :: cs =>
    if isSpace c then
      scanAll cs
    else
      match _ : scan? c cs with
      | none => [.unreadable]
      | some (t, rest) => t :: scanAll rest
termination_by cs.length
decreasing_by
  · simp
  · exact Nat.lt_succ_of_le (length_of_scan? ‹_›)

end Token

end ScopeGen.Json
