import ScopeGen.Json.Source
import ScopeGen.Proofs.Json.Lexemes

/-!
# Proofs/Json/Building — the tokens of a draft build it

    text  ──scanAll──▸  tokens d  ──build──▸  d

A draft without faults has tokens, in the order in which each text of it has them.  `build` goes
through them and comes out with the draft, under whatever frames are open (`build_tokens`).  So a
text that writes the tokens of a draft is read as that draft (`decode_of_writes`).
-/

namespace ScopeGen.Json

namespace Draft

/-! ## The tokens of a draft -/

mutual

/-- The tokens of a draft.  No text writes the token that stands for a fault. -/
def tokens : Draft → List Token
  | .null => [.null]
  | .bool b => [.bool b]
  | .int n => [.int n]
  | .decimal text => [.decimal text]
  | .str text => [.str text]
  | .arr items => .openArray :: itemTokens items ++ [.closeArray]
  | .obj entries => .openObject :: entryTokens entries ++ [.closeObject]
  | .deep _ | .broken => [.unreadable]

def itemTokens : List Draft → List Token
  | [] => []
  | [d] => tokens d
  | d :: d' :: rest => tokens d ++ .comma :: itemTokens (d' :: rest)

def entryTokens : List (Option String × Draft) → List Token
  | [] => []
  | [(key, d)] => .str key :: .colon :: tokens d
  | (key, d) :: entry :: rest =>
    .str key :: .colon :: tokens d ++ .comma :: entryTokens (entry :: rest)

end

/-! ## Building -/

/-- Going through one token. -/
theorem build_cons {t : Token} {tokens : List Token} {expect expect' : Expect}
    {frames frames' : List Frame} (h : step? t expect frames = some (expect', frames')) :
    build (t :: tokens) expect frames = build tokens expect' frames' := by
  rw [build, h]
  rintro last rfl rfl
  simp [step?] at h

/-- What a value starts with is expected as the first item of an array too. -/
theorem exists_tokens_eq_cons {d : Draft} (hd : .unreadable ∉ tokens d) :
    ∃ t ts expect, tokens d = t :: ts ∧ ∀ frames, step? t .value frames = some (expect, frames) ∧
      step? t .firstItem frames = some (expect, .arr [] :: frames) := by
  cases d with
  | deep | broken => exact absurd List.mem_cons_self hd
  | _ => exact ⟨_, _, _, rfl, fun _ => ⟨rfl, rfl⟩⟩

/-- The first item of an array is read as any value is. -/
theorem build_firstItem {items : List Draft} (h : items ≠ [])
    (hitems : .unreadable ∉ itemTokens items) (rest : List Token) (frames : List Frame) :
    build (itemTokens items ++ rest) .firstItem frames =
      build (itemTokens items ++ rest) .value (.arr [] :: frames) := by
  obtain ⟨d, items, rfl⟩ := List.exists_cons_of_ne_nil h
  obtain ⟨ts', hcons⟩ : ∃ ts', itemTokens (d :: items) = tokens d ++ ts' := by
    cases items with
    | nil => exact ⟨[], by rw [itemTokens, List.append_nil]⟩
    | cons d' items => exact ⟨_, by rw [itemTokens]⟩
  have hd : .unreadable ∉ tokens d := fun hmem => hitems (hcons ▸ List.mem_append_left _ hmem)
  obtain ⟨t, ts, expect, htokens, hstep⟩ := exists_tokens_eq_cons hd
  rw [hcons, htokens, List.cons_append, List.cons_append, build_cons (hstep _).2,
    build_cons (hstep _).1]

/-- The first key of an object is read as any key is. -/
theorem build_firstKey : ∀ {entries : List (Option String × Draft)}, entries ≠ [] →
    ∀ (rest : List Token) (frames : List Frame),
    build (entryTokens entries ++ rest) .firstKey frames =
      build (entryTokens entries ++ rest) (.key []) frames
  | [(key, d)], _, rest, frames => by
      rw [entryTokens, List.cons_append, build_cons rfl, build_cons rfl]
  | (key, d) :: entry :: entries, _, rest, frames => by
      rw [entryTokens, List.cons_append, List.cons_append, build_cons rfl, build_cons rfl]

mutual

/-- **The tokens of a draft build it**, whatever is open around it. -/
theorem build_tokens : ∀ (d : Draft), .unreadable ∉ tokens d →
    ∀ (rest : List Token) (frames : List Frame),
    build (tokens d ++ rest) .value frames = build rest (.next d) frames
  | .null, _, _, _ | .bool _, _, _, _ | .int _, _, _, _ | .decimal _, _, _, _ | .str _, _, _, _ =>
    build_cons rfl
  | .deep _, hd, _, _ | .broken, hd, _, _ => absurd List.mem_cons_self hd
  | .arr items, hd, rest, frames => by
      have hitems : .unreadable ∉ itemTokens items := fun hmem => by simp [tokens, hmem] at hd
      rw [tokens, List.cons_append, List.cons_append, build_cons rfl, List.append_assoc]
      by_cases h : items = []
      · subst h
        exact build_cons rfl
      · rw [build_firstItem h hitems, List.singleton_append,
          build_itemTokens items h hitems [] rest frames]
        rfl
  | .obj entries, hd, rest, frames => by
      have hentries : .unreadable ∉ entryTokens entries := fun hmem => by simp [tokens, hmem] at hd
      rw [tokens, List.cons_append, List.cons_append, build_cons rfl, List.append_assoc]
      by_cases h : entries = []
      · subst h
        exact build_cons rfl
      · rw [build_firstKey h, List.singleton_append,
          build_entryTokens entries h hentries [] rest frames]
        rfl

/-- The tokens of further items add their drafts to an open array. -/
theorem build_itemTokens : ∀ (items : List Draft), items ≠ [] → .unreadable ∉ itemTokens items →
    ∀ (before : List Draft) (rest : List Token) (frames : List Frame),
    build (itemTokens items ++ .closeArray :: rest) .value (.arr before :: frames) =
      build rest (.next (.arr (before.reverse ++ items))) frames
  | [d], _, hitems, before, rest, frames => by
      rw [itemTokens, build_tokens d hitems, build_cons rfl, List.reverse_cons]
  | d :: d' :: items, _, hitems, before, rest, frames => by
      rw [itemTokens, List.mem_append, List.mem_cons, not_or, not_or] at hitems
      rw [itemTokens, List.append_assoc, build_tokens d hitems.1, List.cons_append, build_cons rfl,
        build_itemTokens (d' :: items) nofun hitems.2.2, List.reverse_cons, List.append_assoc]
      rfl

/-- The tokens of further entries add theirs to an open object. -/
theorem build_entryTokens : ∀ (entries : List (Option String × Draft)), entries ≠ [] →
    .unreadable ∉ entryTokens entries →
    ∀ (before : List (Option String × Draft)) (rest : List Token) (frames : List Frame),
    build (entryTokens entries ++ .closeObject :: rest) (.key before) frames =
      build rest (.next (.obj (before.reverse ++ entries))) frames
  | [(key, d)], _, hentries, before, rest, frames => by
      have hd : .unreadable ∉ tokens d := fun hmem => by simp [entryTokens, hmem] at hentries
      rw [entryTokens, List.cons_append, List.cons_append, build_cons rfl, build_cons rfl,
        build_tokens d hd, build_cons rfl, List.reverse_cons]
  | (key, d) :: entry :: entries, _, hentries, before, rest, frames => by
      have hd : .unreadable ∉ tokens d := fun hmem => by simp [entryTokens, hmem] at hentries
      have hrest : .unreadable ∉ entryTokens (entry :: entries) := fun hmem => by
        simp [entryTokens, hmem] at hentries
      rw [entryTokens, List.cons_append, List.cons_append, List.cons_append, List.cons_append,
        List.append_assoc, build_cons rfl, build_cons rfl, build_tokens d hd, List.cons_append,
        build_cons rfl, build_entryTokens (entry :: entries) nofun hrest, List.reverse_cons,
        List.append_assoc]
      rfl

end

end Draft

/-! ## Reading -/

/-- No text writes a fault. -/
theorem unreadable_notMem_of_writes {cs : List Char} {ts : List Token} (h : Token.Writes cs ts) :
    .unreadable ∉ ts := by
  induction h with
  | nil => exact List.not_mem_nil
  | blank _ _ ih => exact ih
  | token hlexeme _ ih =>
    rintro (_ | ⟨_, hmem⟩)
    · cases hlexeme
    · exact ih hmem
  | number hnumeral _ _ ih =>
    rintro (_ | ⟨_, hmem⟩)
    · cases hnumeral
    · exact ih hmem

theorem build_scanAll_of_writes {cs : List Char} {d : Draft} (h : Token.Writes cs d.tokens) :
    Draft.build (Token.scanAll cs) .value [] = (d, some []) := by
  rw [Token.scanAll_of_writes h, ← List.append_nil d.tokens,
    Draft.build_tokens d (unreadable_notMem_of_writes h), Draft.build]

/-- **Reading a text is reading the draft whose tokens it writes**, to the depth that is read. -/
theorem decode_of_writes {α : Type} (read : Draft → Except Refusal α) {text : String} {d : Draft}
    (h : Token.Writes text.toList d.tokens) :
    decode read text = read (d.prune Draft.nestingLimit) := by
  simp only [decode, Draft.ofText, build_scanAll_of_writes h]
  exact bind_pure _

end ScopeGen.Json
