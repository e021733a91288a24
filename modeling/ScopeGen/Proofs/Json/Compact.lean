import ScopeGen.Proofs.Json.Building

/-!
# Proofs/Json/Compact — compact text writes the value it is made from

`render j` is one of the texts that write the draft of `j`, the one without blanks: by induction on
`j`, whatever follows.  So it is read as that draft, and no two values have the same text
(`render_injective`).
-/

namespace ScopeGen.Json

/-! ## The draft of a value -/

namespace Draft

mutual

/-- The draft in which nothing is missing. -/
def ofJson : Json → Draft
  | .null => .null
  | .bool b => .bool b
  | .int n => .int n
  | .str text => .str (some text)
  | .arr items => .arr (ofJsons items)
  | .obj entries => .obj (ofEntries entries)

/-- The drafts of items, one by one. -/
def ofJsons : List Json → List Draft
  | [] => []
  | j :: rest => ofJson j :: ofJsons rest

def ofEntries : List (String × Json) → List (Option String × Draft)
  | [] => []
  | (key, j) :: rest => (some key, ofJson j) :: ofEntries rest

end

mutual

/-- Different values have different drafts. -/
theorem ofJson_injective : ∀ i j : Json, ofJson i = ofJson j → i = j
  | i, j, h => by
      cases i <;> cases j <;> simp only [ofJson, reduceCtorEq] at h
      case null.null => rfl
      case bool.bool => rw [Draft.bool.inj h]
      case int.int => rw [Draft.int.inj h]
      case str.str => rw [Option.some.inj (Draft.str.inj h)]
      case arr.arr items items' => rw [ofJsons_injective items items' (Draft.arr.inj h)]
      case obj.obj entries entries' => rw [ofEntries_injective entries entries' (Draft.obj.inj h)]

/-- Lists of drafts are compared item by item. -/
theorem ofJsons_injective : ∀ items items' : List Json, ofJsons items = ofJsons items' →
    items = items'
  | [], [], _ => rfl
  | [], _ :: _, h | _ :: _, [], h => by simp [ofJsons] at h
  | i :: items, j :: items', h => by
      rw [ofJsons, ofJsons, List.cons.injEq] at h
      rw [ofJson_injective i j h.1, ofJsons_injective items items' h.2]

theorem ofEntries_injective : ∀ entries entries' : List (String × Json),
    ofEntries entries = ofEntries entries' → entries = entries'
  | [], [], _ => rfl
  | [], _ :: _, h | _ :: _, [], h => by simp [ofEntries] at h
  | (key, i) :: entries, (key', j) :: entries', h => by
      rw [ofEntries, ofEntries, List.cons.injEq, Prod.mk.injEq, Option.some_inj] at h
      rw [h.1.1, ofJson_injective i j h.1.2, ofEntries_injective entries entries' h.2]

end

end Draft

/-! ## Compact tokens -/

open Token Draft

/-- The sixteen digits are read as what they stand for. -/
theorem hexDigit?_digitChar : ∀ d < 16, hexDigit? d.digitChar = some d := by decide

/-- The code of a control character is read back. -/
theorem hex4?_digitChar {code : Nat} (h : code < 32) :
    hex4? '0' '0' (code / 16).digitChar (code % 16).digitChar = some code := by
  have hhigh := hexDigit?_digitChar (code / 16) (by omega)
  have hlow := hexDigit?_digitChar (code % 16) (by omega)
  have hzero : hexDigit? '0' = some 0 := by decide
  simp only [hex4?, hzero, hhigh, hlow, Option.bind_eq_bind, Option.bind_some, Option.pure_def,
    Option.some_inj]
  omega

/-- **The escape of a character stands for it**, in front of any text. -/
theorem stringBody_escape (c : Char) {body text : List Char} (h : StringBody body text) :
    StringBody (escape c ++ body) (c :: text) := by
  unfold escape
  split
  case h_8 hquote hslash _ _ _ _ _ =>
    split
    case isTrue hcontrol =>
      have hlt : c.toNat < 32 := hcontrol
      have hcode := StringBody.code (hex4?_digitChar hlt) (by omega) h
      rwa [Char.ofNat_toNat] at hcode
    case isFalse hcontrol => exact .plain hquote hslash hcontrol h
  all_goals exact .letter rfl h

/-- Escaping each character of a text escapes the text. -/
theorem stringBody_flatMap_escape (text : List Char) : StringBody (text.flatMap escape) text := by
  induction text with
  | nil => exact .nil
  | cons c text ih => exact stringBody_escape c ih

/-- **A quoted text is a token for the text.** -/
theorem lexeme_quote (text : String) : Lexeme (.str (some text)) (quote text) := by
  have hlexeme := Lexeme.str (stringBody_flatMap_escape text.toList)
  rwa [String.ofList_toList] at hlexeme

/-! ## Compact values -/

mutual

/-- **Compact text writes the tokens of its value**, whatever follows. -/
theorem writes_chars : ∀ (j : Json) {rest : List Char} {ts : List Token}, EndsNumber rest →
    Writes rest ts → Writes (chars j ++ rest) (tokens (ofJson j) ++ ts)
  | .null, _, _, _, h => .token .null h
  | .bool true, _, _, _, h => .token .true h
  | .bool false, _, _, _, h => .token .false h
  | .int n, _, _, hrest, h => .number (.int n) hrest h
  | .str text, _, _, _, h => .token (lexeme_quote text) h
  | .arr items, rest, ts, _, h => by
      have hclose : Writes (']' :: rest) (.closeArray :: ts) := .token .closeArray h
      have hitems := writes_itemChars items (endsNumber_cons (by decide)) hclose
      rw [chars, ofJson, tokens, List.cons_append, List.cons_append, List.append_assoc,
        List.append_assoc]
      exact .token .openArray hitems
  | .obj entries, rest, ts, _, h => by
      have hclose : Writes ('\x7d' :: rest) (.closeObject :: ts) := .token .closeObject h
      have hentries := writes_entryChars entries (endsNumber_cons (by decide)) hclose
      rw [chars, ofJson, tokens, List.cons_append, List.cons_append, List.append_assoc,
        List.append_assoc]
      exact .token .openObject hentries

/-- Items are written with commas between them, and a number among them ends at its comma. -/
theorem writes_itemChars : ∀ (items : List Json) {rest : List Char} {ts : List Token},
    EndsNumber rest → Writes rest ts →
      Writes (itemChars items ++ rest) (itemTokens (ofJsons items) ++ ts)
  | [], _, _, _, h => h
  | [j], _, _, hrest, h => writes_chars j hrest h
  | j :: j' :: items, rest, ts, hrest, h => by
      have hrest' : Writes (',' :: (itemChars (j' :: items) ++ rest))
          (.comma :: (itemTokens (ofJsons (j' :: items)) ++ ts)) :=
        .token .comma (writes_itemChars (j' :: items) hrest h)
      have hitems := writes_chars j (endsNumber_cons (by decide)) hrest'
      rwa [itemChars, ofJsons, ofJsons, itemTokens, List.append_assoc, List.append_assoc]

theorem writes_entryChars : ∀ (entries : List (String × Json)) {rest : List Char}
    {ts : List Token}, EndsNumber rest → Writes rest ts →
      Writes (entryChars entries ++ rest) (entryTokens (ofEntries entries) ++ ts)
  | [], _, _, _, h => h
  | [(key, j)], rest, ts, hrest, h => by
      have hcolon : Writes (':' :: (chars j ++ rest)) (.colon :: (tokens (ofJson j) ++ ts)) :=
        .token .colon (writes_chars j hrest h)
      rw [entryChars, ofEntries, ofEntries, entryTokens, List.append_assoc]
      exact .token (lexeme_quote key) hcolon
  | (key, j) :: entry :: entries, rest, ts, hrest, h => by
      have hrest' : Writes (',' :: (entryChars (entry :: entries) ++ rest))
          (.comma :: (entryTokens (ofEntries (entry :: entries)) ++ ts)) :=
        .token .comma (writes_entryChars (entry :: entries) hrest h)
      have hcolon : Writes (':' :: (chars j ++ ',' :: (entryChars (entry :: entries) ++ rest)))
          (.colon :: (tokens (ofJson j) ++
            .comma :: (entryTokens (ofEntries (entry :: entries)) ++ ts))) :=
        .token .colon (writes_chars j (endsNumber_cons (by decide)) hrest')
      rw [entryChars, ofEntries, ofEntries, entryTokens]
      simp only [List.append_assoc, List.cons_append]
      exact .token (lexeme_quote key) hcolon

end

/-- The text of a value ends where its last token does. -/
theorem writes_render (j : Json) : Writes (render j).toList (tokens (ofJson j)) := by
  have hwrites := writes_chars j endsNumber_nil .nil
  rw [List.append_nil, List.append_nil] at hwrites
  rwa [render, String.toList_ofList]

/-- **Compact text is read as the draft of its value**, to the depth that is read. -/
theorem decode_render {α : Type} (read : Draft → Except Refusal α) (j : Json) :
    decode read (render j) = read ((ofJson j).prune nestingLimit) :=
  decode_of_writes read (writes_render j)

/-- **Different values have different texts.** -/
theorem render_injective : Function.Injective render := fun i j h => by
  have hbuild := build_scanAll_of_writes (writes_render i)
  rw [h, build_scanAll_of_writes (writes_render j)] at hbuild
  exact (ofJson_injective j i (Prod.mk.inj hbuild).1).symm

end ScopeGen.Json
