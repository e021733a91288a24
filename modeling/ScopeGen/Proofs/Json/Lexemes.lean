import ScopeGen.Json.Basic
import ScopeGen.Json.Token

/-!
# Proofs/Json/Lexemes — each way to write a token

    "a\/b"   -0.5e+3   [   true      ──scanAll──▸      one token each

A punctuation mark and a name can be written in one way; a string can escape its characters, and a
number can have a fraction and an exponent.  A text **writes** tokens (`Writes`) when it has a
lexeme of each in turn, with any blanks before, between and after them.  Nothing but that is read
from it (`scanAll_of_writes`).
-/

namespace ScopeGen.Json.Token

/-! ## Strings -/

/-- A text as it may stand inside a string: a character stands for itself, or is escaped by a letter
or by its code, which takes two surrogates from `0x10000` on. -/
inductive StringBody : List Char → List Char → Prop where
  | nil : StringBody [] []
  | plain {c : Char} {body text : List Char} :
      c ≠ '"' → c ≠ '\\' → ¬c < ' ' → StringBody body text → StringBody (c :: body) (c :: text)
  | letter {e c : Char} {body text : List Char} :
      unescape? e = some c → StringBody body text → StringBody ('\\' :: e :: body) (c :: text)
  | code {a b c d : Char} {code : Nat} {body text : List Char} :
      hex4? a b c d = some code → code < 0xD800 ∨ 0xE000 ≤ code → StringBody body text →
        StringBody ('\\' :: 'u' :: a :: b :: c :: d :: body) (Char.ofNat code :: text)
  | surrogates {a b c d a' b' c' d' : Char} {high low : Nat} {body text : List Char} :
      hex4? a b c d = some high → 0xD800 ≤ high ∧ high < 0xDC00 →
      hex4? a' b' c' d' = some low → 0xDC00 ≤ low ∧ low < 0xE000 → StringBody body text →
        StringBody
          ('\\' :: 'u' :: a :: b :: c :: d :: '\\' :: 'u' :: a' :: b' :: c' :: d' :: body)
          (Char.ofNat (0x10000 + (high - 0xD800) * 0x400 + (low - 0xDC00)) :: text)

/-- A character that is no quote, no backslash and no control character stands for itself. -/
theorem pieces?_cons_of_plain {c : Char} (hquote : c ≠ '"') (hslash : c ≠ '\\') (hspace : ¬c < ' ')
    (tail : List Char) :
    pieces? (c :: tail) = (pieces? tail).map fun p => (.char c :: p.1, p.2) := by
  rw [pieces?]
  · rw [if_neg (by simp [hspace, hslash])]
    cases pieces? tail <;> rfl
  · exact hquote
  · exact fun _ _ _ _ _ h => absurd h hslash
  · exact fun _ _ h => absurd h hslash

/-- A character is read back from the letter it is escaped by. -/
theorem pieces?_unescape {e c : Char} (h : unescape? e = some c) (tail : List Char) :
    pieces? ('\\' :: e :: tail) = (pieces? tail).map fun p => (.char c :: p.1, p.2) := by
  have hcode : e ≠ 'u' := by
    rintro rfl
    simp [unescape?] at h
  rw [pieces?, h]
  · cases pieces? tail <;> rfl
  · exact fun _ _ _ _ _ he => absurd he hcode

/-- A piece is read back from its code. -/
theorem pieces?_code {a b c d : Char} {code : Nat} (h : hex4? a b c d = some code)
    (tail : List Char) :
    pieces? ('\\' :: 'u' :: a :: b :: c :: d :: tail) =
      (pieces? tail).map fun p => (.ofCode code :: p.1, p.2) := by
  rw [pieces?, h]
  cases pieces? tail <;> rfl

/-- **A string is read back from its body**, up to the closing quote. -/
theorem exists_pieces?_of_stringBody {body text : List Char} (h : StringBody body text)
    (tail : List Char) :
    ∃ pieces, pieces? (body ++ '"' :: tail) = some (pieces, tail) ∧ join? pieces = some text := by
  induction h with
  | nil => exact ⟨[], rfl, rfl⟩
  | plain hquote hslash hspace _ ih =>
    obtain ⟨pieces, hpieces, hjoin⟩ := ih
    refine ⟨.char _ :: pieces, ?_, by rw [join?, hjoin, Option.map_some]⟩
    rw [List.cons_append, pieces?_cons_of_plain hquote hslash hspace, hpieces, Option.map_some]
  | letter hletter _ ih =>
    obtain ⟨pieces, hpieces, hjoin⟩ := ih
    refine ⟨.char _ :: pieces, ?_, by rw [join?, hjoin, Option.map_some]⟩
    rw [List.cons_append, List.cons_append, pieces?_unescape hletter, hpieces, Option.map_some]
  | code hcode hrange _ ih =>
    obtain ⟨pieces, hpieces, hjoin⟩ := ih
    refine ⟨.char _ :: pieces, ?_, by rw [join?, hjoin, Option.map_some]⟩
    simp only [List.cons_append]
    rw [pieces?_code hcode, hpieces, Option.map_some, Piece.ofCode, if_neg (by omega)]
  | @surrogates _ _ _ _ _ _ _ _ high low _ _ hhigh hrange hlow hrange' _ ih =>
    obtain ⟨pieces, hpieces, hjoin⟩ := ih
    refine ⟨.surrogate high :: .surrogate low :: pieces, ?_, ?_⟩
    · simp only [List.cons_append]
      rw [pieces?_code hhigh, pieces?_code hlow, hpieces, Option.map_some, Option.map_some,
        Piece.ofCode, if_pos (by omega), Piece.ofCode, if_pos (by omega)]
    · rw [join?, if_pos ⟨hrange.2, hrange'.1⟩, hjoin, Option.map_some]

/-! ## Numbers -/

/-- A run of digits, at least one. -/
structure Digits (digits : List Char) : Prop where
  ne_nil : digits ≠ []
  isDigit : ∀ c ∈ digits, c.isDigit

/-- The fraction of a number, which may be missing. -/
inductive Fraction : List Char → Prop where
  | none : Fraction []
  | point {digits : List Char} : Digits digits → Fraction ('.' :: digits)

/-- The exponent of a number, which may be missing. -/
inductive Exponent : List Char → Prop where
  | none : Exponent []
  | power {e : Char} {sign digits : List Char} :
      e = 'e' ∨ e = 'E' → sign ∈ [[], ['+'], ['-']] → Digits digits →
        Exponent (e :: (sign ++ digits))

/-- A number with `after` behind its digits. -/
def decimalChars (minus : Bool) (n : Nat) (after : List Char) : List Char :=
  (if minus then ['-'] else []) ++ (Nat.toDigits 10 n ++ after)

/-- What may be written for the token of a number. -/
inductive Numeral : Token → List Char → Prop where
  | int (n : Int) : Numeral (.int n) (intChars n)
  | decimal {minus : Bool} {n : Nat} {fraction exponent : List Char} :
      Fraction fraction → Exponent exponent →
      fraction ≠ [] ∨ exponent ≠ [] ∨ minus = true ∧ n = 0 →
        Numeral (.decimal (String.ofList (decimalChars minus n (fraction ++ exponent))))
          (decimalChars minus n (fraction ++ exponent))

/-- The text does not go on with what could belong to a number. -/
def EndsNumber (rest : List Char) : Prop :=
  ∀ c ∈ rest.head?, c.isDigit = false ∧ c ≠ '.' ∧ c ≠ 'e' ∧ c ≠ 'E'

theorem endsNumber_nil : EndsNumber [] := by simp [EndsNumber]

/-- A number ends where a comma, a bracket or a blank follows. -/
theorem endsNumber_cons {c : Char} {rest : List Char}
    (h : c.isDigit = false ∧ c ≠ '.' ∧ c ≠ 'e' ∧ c ≠ 'E') : EndsNumber (c :: rest) := by
  simpa [EndsNumber] using h

/-- A number has at least one decimal digit, zero too. -/
theorem digits_toDigits (n : Nat) : Digits (Nat.toDigits 10 n) where
  ne_nil := Nat.toDigits_ne_nil
  isDigit := fun _ hc => Nat.isDigit_of_mem_toDigits (by decide) (by decide) hc

/-- Digits are read up to the first character that is none. -/
theorem digits?_append {digits rest : List Char} (h : Digits digits)
    (hrest : ∀ c ∈ rest.head?, c.isDigit = false) :
    digits? (digits ++ rest) = some (digits, rest) := by
  have htake : rest.takeWhile Char.isDigit = [] := by
    cases rest with
    | nil => rfl
    | cons c rest => exact List.takeWhile_cons_of_neg (by simp [hrest c rfl])
  have hdrop : rest.dropWhile Char.isDigit = rest := by
    cases rest with
    | nil => rfl
    | cons c rest => exact List.dropWhile_cons_of_neg (by simp [hrest c rfl])
  simp [digits?, List.takeWhile_append_of_pos h.isDigit, List.dropWhile_append_of_pos h.isDigit,
    htake, hdrop, h.ne_nil]

/-- A sign is dropped where there is one, and no digit is. -/
theorem dropSign_append {sign digits : List Char} (hsign : sign ∈ [[], ['+'], ['-']])
    (h : Digits digits) (rest : List Char) :
    dropSign (sign ++ digits ++ rest) = digits ++ rest := by
  obtain ⟨c, digits, rfl⟩ := List.exists_cons_of_ne_nil h.ne_nil
  have hc := h.isDigit c List.mem_cons_self
  simp only [List.mem_cons, List.not_mem_nil, or_false] at hsign
  obtain rfl | rfl | rfl := hsign
  · -- a digit is no sign
    rw [List.nil_append, List.cons_append, dropSign] <;> rintro _ ⟨⟩ <;> exact absurd hc (by decide)
  · rfl
  · rfl

theorem sign_append {s digits : List Char} (hsign : s ∈ [[], ['+'], ['-']]) (h : Digits digits)
    (rest : List Char) : sign (s ++ digits ++ rest) = s := by
  obtain ⟨c, digits, rfl⟩ := List.exists_cons_of_ne_nil h.ne_nil
  have hc := h.isDigit c List.mem_cons_self
  simp only [List.mem_cons, List.not_mem_nil, or_false] at hsign
  obtain rfl | rfl | rfl := hsign
  · rw [List.nil_append, List.cons_append, sign] <;> rintro _ ⟨⟩ <;> exact absurd hc (by decide)
  · rfl
  · rfl

/-- An exponent is kept as it stands, with its sign. -/
theorem exponent?_append {exponent rest : List Char} (h : Exponent exponent)
    (hrest : EndsNumber rest) : exponent? (exponent ++ rest) = some (exponent, rest) := by
  cases h with
  | none =>
    rw [List.nil_append]
    unfold exponent?
    split
    · exact absurd rfl (hrest 'e' rfl).2.2.1
    · exact absurd rfl (hrest 'E' rfl).2.2.2
    · rfl
  | power he hsign hdigits =>
    have hread := digits?_append hdigits fun c hc => (hrest c hc).1
    obtain rfl | rfl := he <;>
      rw [List.cons_append, exponent?, power?, dropSign_append hsign hdigits, hread,
        sign_append hsign hdigits] <;> rfl

/-- A fraction is kept as it stands, with its point. -/
theorem fraction?_append {fraction rest : List Char} (h : Fraction fraction)
    (hrest : ∀ c ∈ rest.head?, c.isDigit = false ∧ c ≠ '.') :
    fraction? (fraction ++ rest) = some (fraction, rest) := by
  cases h with
  | none =>
    rw [List.nil_append]
    unfold fraction?
    split
    · exact absurd rfl (hrest '.' rfl).2
    · rfl
  | point hdigits =>
    rw [List.cons_append, fraction?, digits?_append hdigits fun c hc => (hrest c hc).1]
    rfl

/-- Only zero is written with a zero in front. -/
theorem head?_toDigits_ne_zero {n : Nat} (h : n ≠ 0) : (Nat.toDigits 10 n).head? ≠ some '0' := by
  induction n using Nat.strongRecOn with
  | ind n ih =>
    by_cases hlt : n < 10
    · rw [Nat.toDigits_of_lt_base hlt]
      have : ∀ d < 10, d ≠ 0 → [d.digitChar].head? ≠ some '0' := by decide
      exact this n hlt h
    · rw [Nat.toDigits_of_base_le (by decide) (by omega), List.head?_append,
        List.head?_eq_some_head Nat.toDigits_ne_nil, Option.some_or,
        ← List.head?_eq_some_head Nat.toDigits_ne_nil]
      exact ih (n / 10) (by omega) (by omega)

/-- **A number is read from its digits, its fraction and its exponent.** -/
theorem number?_append (negative : Bool) (n : Nat) {fraction exponent rest : List Char}
    (hfraction : Fraction fraction) (hexponent : Exponent exponent) (h : EndsNumber rest) :
    number? negative (Nat.toDigits 10 n ++ (fraction ++ (exponent ++ rest))) =
      some (ofNumber negative (Nat.toDigits 10 n) (fraction ++ exponent), rest) := by
  have hafter : ∀ c ∈ (exponent ++ rest).head?, c.isDigit = false ∧ c ≠ '.' := by
    cases hexponent with
    | none => exact fun c hc => ⟨(h c hc).1, (h c hc).2.1⟩
    | power he =>
      rintro c ⟨⟩
      obtain rfl | rfl := he <;> decide
  have hwhole : ∀ c ∈ (fraction ++ (exponent ++ rest)).head?, c.isDigit = false := by
    cases hfraction with
    | none => exact fun c hc => (hafter c hc).1
    | point =>
      rintro c ⟨⟩
      decide
  have hzero : ¬((Nat.toDigits 10 n).head? = some '0' ∧ (Nat.toDigits 10 n).length ≠ 1) := by
    rintro ⟨hhead, hlength⟩
    by_cases h0 : n = 0
    · exact hlength (by rw [h0]; rfl)
    · exact head?_toDigits_ne_zero h0 hhead
  simp [number?, digits?_append (digits_toDigits n) hwhole, fraction?_append hfraction hafter,
    exponent?_append hexponent h, hzero]

/-! ## One token -/

/-- What may be written for a token that is not a number. -/
inductive Lexeme : Token → List Char → Prop where
  | openArray : Lexeme .openArray ['[']
  | closeArray : Lexeme .closeArray [']']
  | openObject : Lexeme .openObject ['\x7b']
  | closeObject : Lexeme .closeObject ['\x7d']
  | comma : Lexeme .comma [',']
  | colon : Lexeme .colon [':']
  | null : Lexeme .null ['n', 'u', 'l', 'l']
  | true : Lexeme (.bool true) ['t', 'r', 'u', 'e']
  | false : Lexeme (.bool false) ['f', 'a', 'l', 's', 'e']
  | str {body text : List Char} :
      StringBody body text → Lexeme (.str (some (String.ofList text))) ('"' :: (body ++ ['"']))

/-- **What `scan?` finds is the first token.** -/
theorem scanAll_cons {c : Char} {cs rest : List Char} {t : Token} (hspace : isSpace c = false)
    (h : scan? c cs = some (t, rest)) : scanAll (c :: cs) = t :: scanAll rest := by
  rw [scanAll, hspace, if_neg Bool.false_ne_true]
  generalize scan? c cs = found at h
  subst h
  rfl

/-- **What is written for a token is read as that token**, whatever follows. -/
theorem scanAll_lexeme {t : Token} {cs : List Char} (h : Lexeme t cs) (rest : List Char) :
    scanAll (cs ++ rest) = t :: scanAll rest := by
  cases h with
  | @str body text hbody =>
    obtain ⟨pieces, hpieces, hjoin⟩ := exists_pieces?_of_stringBody hbody rest
    rw [List.cons_append, List.append_assoc, List.singleton_append]
    refine scanAll_cons rfl ?_
    simp only [scan?, hpieces, Option.map_some, hjoin]
  | _ => exact scanAll_cons rfl rfl

theorem isSpace_of_isDigit {c : Char} (h : c.isDigit) : isSpace c = false := by
  refine Bool.eq_false_iff.2 fun hspace => ?_
  simp only [isSpace, Bool.or_eq_true, beq_iff_eq] at hspace
  obtain ((rfl | rfl) | rfl) | rfl := hspace <;> exact absurd h (by decide)

/-- A digit starts a number that is not negative. -/
theorem scan?_of_isDigit {c : Char} (h : c.isDigit) (cs : List Char) :
    scan? c cs = number? false (c :: cs) := by
  unfold scan?
  split
  case h_12 => rfl
  all_goals exact absurd h (by decide)

/-- What is found after a sign, or without one, is the first token. -/
theorem scanAll_number {negative : Bool} {n : Nat} {after rest : List Char} {t : Token}
    (h : number? negative (Nat.toDigits 10 n ++ after) = some (t, rest)) :
    scanAll ((if negative then ['-'] else []) ++ (Nat.toDigits 10 n ++ after)) =
      t :: scanAll rest := by
  cases negative with
  | true => exact scanAll_cons rfl h
  | false =>
    obtain ⟨c, digits, hdigits⟩ := List.exists_cons_of_ne_nil (digits_toDigits n).ne_nil
    have hc : c.isDigit := (digits_toDigits n).isDigit c (hdigits ▸ List.mem_cons_self)
    rw [hdigits, List.cons_append] at h
    rw [if_neg Bool.false_ne_true, List.nil_append, hdigits]
    exact scanAll_cons (isSpace_of_isDigit hc) ((scan?_of_isDigit hc _).trans h)

/-- Without fraction and exponent, digits are the token of an integer. -/
theorem ofNumber_natAbs (n : Int) :
    ofNumber (decide (n < 0)) (Nat.toDigits 10 n.natAbs) [] = .int n := by
  have hsign : ¬(decide (n < 0) = true ∧ n.natAbs = 0) := by simp; omega
  simp only [ofNumber, Nat.ofDigitChars_ten_toDigits, decide_eq_true_eq] at hsign ⊢
  rw [if_pos ⟨trivial, hsign⟩]
  split <;> congr 1 <;> omega

/-- With a fraction or an exponent they are not, and with a sign zero is not. -/
theorem ofNumber_eq_decimal {negative : Bool} {n : Nat} {after : List Char}
    (h : after ≠ [] ∨ negative = true ∧ n = 0) :
    ofNumber negative (Nat.toDigits 10 n) after =
      .decimal (String.ofList (decimalChars negative n after)) := by
  refine if_neg fun ⟨hafter, hsign⟩ => ?_
  rw [Nat.ofDigitChars_ten_toDigits] at hsign
  exact h.elim (fun h => h hafter) hsign

/-- **A numeral is read as its token** when what follows does not go on with it. -/
theorem scanAll_numeral {t : Token} {cs rest : List Char} (h : Numeral t cs)
    (hrest : EndsNumber rest) : scanAll (cs ++ rest) = t :: scanAll rest := by
  cases h with
  | int n =>
    have hchars : intChars n =
        (if decide (n < 0) then ['-'] else []) ++ (Nat.toDigits 10 n.natAbs ++ []) := by
      rw [intChars, List.append_nil]
      split <;> simp_all
    have hread := number?_append (decide (n < 0)) n.natAbs .none .none hrest
    rw [List.append_nil, ofNumber_natAbs] at hread
    rw [hchars, List.append_assoc, List.append_assoc]
    exact scanAll_number hread
  | @decimal minus n fraction exponent hfraction hexponent hinexact =>
    have hafter : fraction ++ exponent ≠ [] ∨ minus = true ∧ n = 0 := by
      obtain h | h | h := hinexact
      · exact .inl (List.append_ne_nil_of_left_ne_nil h exponent)
      · exact .inl (List.append_ne_nil_of_right_ne_nil fraction h)
      · exact .inr h
    have hread := number?_append minus n hfraction hexponent hrest
    rw [ofNumber_eq_decimal hafter] at hread
    rw [decimalChars, List.append_assoc, List.append_assoc, List.append_assoc]
    exact scanAll_number hread

/-! ## Texts -/

/-- The text writes the tokens, with any blanks around them.  A number ends where the text does not
go on with it, as before a blank, a comma or a bracket. -/
inductive Writes : List Char → List Token → Prop where
  | nil : Writes [] []
  | blank {c : Char} {cs : List Char} {ts : List Token} :
      isSpace c → Writes cs ts → Writes (c :: cs) ts
  | token {t : Token} {cs rest : List Char} {ts : List Token} :
      Lexeme t cs → Writes rest ts → Writes (cs ++ rest) (t :: ts)
  | number {t : Token} {cs rest : List Char} {ts : List Token} :
      Numeral t cs → EndsNumber rest → Writes rest ts → Writes (cs ++ rest) (t :: ts)

/-- **A text is cut into the tokens that it writes.** -/
theorem scanAll_of_writes {cs : List Char} {ts : List Token} (h : Writes cs ts) :
    scanAll cs = ts := by
  induction h with
  | nil => rw [scanAll]
  | blank hspace _ ih => rw [scanAll, if_pos hspace, ih]
  | token hlexeme _ ih => rw [scanAll_lexeme hlexeme, ih]
  | number hnumeral hrest _ ih => rw [scanAll_numeral hnumeral hrest, ih]

end ScopeGen.Json.Token
