import ScopeGen.Proofs.Json.Levels
import ScopeGen.Proofs.Json.RoundTrip

/-!
# Proofs/Json/Respelling — reading does not depend on the spelling

A text **spells** a value (`Schema.Spells`) when it writes the tokens of one of the spellings that
the value's outline allows.  Each text that spells a value is read as that value
(`Schema.decode_spells`), up to the depth that is read: `Schema.decode_positionalJson` is a value
right at the limit, which some of its texts give and others do not.  A value whose own text is read
is given by all of them.
-/

namespace ScopeGen

open Json

namespace Schema

/-- The text spells the value; without what is passed over, it is nested so deep. -/
def Spells (s : Schema) (v : s.Carrier) (text : String) (depth : Nat) : Prop :=
  ∃ d, Spelling (s.outline v) d depth ∧ Token.Writes text.toList d.tokens

variable {s : Schema}

/-- What is written spells the value. -/
theorem spells_write (v : s.Carrier) : s.Spells v (s.write v) (s.toJson v).depth :=
  ⟨_, spelling_toJson v, writes_render _⟩

/-- **A text is read as the value that it spells**, if it is nested no deeper than is read. -/
theorem decode_of_spells {v : s.Carrier} {text : String} {depth : Nat}
    (h : s.Spells v text depth) :
    decode s.read text = outcome Draft.nestingLimit depth v := by
  obtain ⟨d, hd, htext⟩ := h
  rw [decode_of_writes s.read htext]
  exact s.givesBack v _ (Nat.le_refl _) d depth hd

theorem loose_outline (v : s.Carrier) : (s.outline v).Loose := by
  cases s with
  | cls => exact (ClassDecl.tight_outline v).loose
  | method => exact (Method.tight_outline v).loose
  | signature => exact (Signature.tight_outline v).loose
  | parameter => exact (Parameter.tight_outline v).loose
  | annot => exact (Annot.tight_outline v).loose
  | member => exact (Member.tight_outline v).loose
  | value => exact (Value.tight_outline v).loose
  | marker => exact Marker.loose_outline v
  | scope => exact (Outline.tight_only _).loose
  | subclass => exact (Subclass.tight_outline v).loose
  | override => exact (Override.tight_outline v).loose
  | role => exact Role.loose_outline v
  | call => exact (Call.tight_outline v).loose

/-- No text that spells a value is nested deeper than what is written, but for one level. -/
theorem depth_le_of_spells {v : s.Carrier} {text : String} {depth : Nat}
    (h : s.Spells v text depth) : depth ≤ max 1 (s.toJson v).depth := by
  obtain ⟨d, hd, -⟩ := h
  have hle := loose_outline v d depth hd
  rwa [json_outline] at hle

/-- **Reading does not depend on the spelling of a value.**  What is written for the value is one of
its spellings; each spelling is read as the value, unless it is nested too deep and so is refused,
and none is when the value's own text is read. -/
theorem decode_spells (s : Schema) (v : s.Carrier) :
    s.Spells v (s.write v) (s.toJson v).depth ∧
    ∀ (text : String) (depth : Nat), s.Spells v text depth →
      decode s.read text =
        (if depth ≤ Draft.nestingLimit then .ok v else .error .tooDeep) ∧
      ((s.toJson v).depth ≤ Draft.nestingLimit → decode s.read text = .ok v) := by
  refine ⟨spells_write v, fun text depth h => ⟨decode_of_spells h, fun hv => ?_⟩⟩
  have hlimit : max 1 (s.toJson v).depth ≤ Draft.nestingLimit := Nat.max_le.2 ⟨by decide, hv⟩
  exact (decode_of_spells h).trans
    (outcome_eq_ok_iff.2 (Nat.le_trans (depth_le_of_spells h) hlimit))

/-- An annotation of which only the name is there, with an unknown field, blanks and an escape. -/
theorem decode_spells_annot :
    Schema.annot.Spells ⟨"a", [], .other⟩ "\x7b\"x\":[true] , \"name\":\"\\u0061\"\x7d" 1 ∧
    decode Schema.annot.read "\x7b\"x\":[true] , \"name\":\"\\u0061\"\x7d" =
      .ok ⟨"a", [], .other⟩ := by
  have hspelling : Spelling (Annot.outline ⟨"a", [], .other⟩)
      (.obj [(some "x", .arr [.bool true]), (some "name", .str (some "a"))]) (max 0 0 + 1) := by
    rw [Annot.outline]
    refine .named (.other (by decide) rfl (.first (.only (.str "a")) (.nil ?_)))
    simp [Slot.optional]
  have hwrites : Token.Writes "\x7b\"x\":[true] , \"name\":\"\\u0061\"\x7d".toList
      (Draft.tokens (.obj [(some "x", .arr [.bool true]), (some "name", .str (some "a"))])) :=
    .token .openObject <| .token (lexeme_quote "x") <| .token .colon <|
    .token .openArray <| .token .true <| .token .closeArray <|
    .blank rfl <| .token .comma <| .blank rfl <|
    .token (lexeme_quote "name") <| .token .colon <|
    .token (.str (.code rfl (.inl (by decide)) .nil)) <| .token .closeObject .nil
  have hspells : Schema.annot.Spells ⟨"a", [], .other⟩
      "\x7b\"x\":[true] , \"name\":\"\\u0061\"\x7d" 1 := ⟨_, hspelling, hwrites⟩
  exact ⟨hspells, ((decode_spells .annot ⟨"a", [], .other⟩).2 _ 1 hspells).2 (by decide)⟩

/-! ## At the limit -/

/-- What may be written for the member that holds an annotation inside 62 lists, as an array. -/
def positionalJson : Json := .arr [.str "m", wrappedJson 62 (Value.annot ⟨"x", [], .other⟩).toJson]

theorem spelling_positionalJson :
    Spelling limitMember.outline (Draft.ofJson positionalJson) (Draft.nestingLimit + 1) := by
  have hdepth : Draft.nestingLimit + 1 = max 0 (max (2 * 62 + 3) 0) + 1 := rfl
  have hannot : Spelling (Value.annot ⟨"x", [], .other⟩).outline
      (Draft.ofJson (Value.annot ⟨"x", [], .other⟩).toJson) 3 := by
    have hjson := spelling_json (Value.annot ⟨"x", [], .other⟩).outline
    rw [Value.json_outline] at hjson
    exact hjson
  rw [limitMember, Member.outline, hdepth]
  exact .positional (.cons (.only (.str "m")) (.cons (spelling_wrapped hannot 62) (.nil (by simp))))

/-- **At the limit a value has texts that are read and texts that are refused**: the annotation in
it may leave its list of members out. -/
theorem decode_positionalJson :
    (Schema.member.Spells limitMember (render limitJson) Draft.nestingLimit ∧
      decode Schema.member.read (render limitJson) = .ok limitMember) ∧
    Schema.member.Spells limitMember (render positionalJson) (Draft.nestingLimit + 1) ∧
      decode Schema.member.read (render positionalJson) = .error .tooDeep := by
  have hspells : Schema.member.Spells limitMember (render positionalJson)
      (Draft.nestingLimit + 1) := ⟨_, spelling_positionalJson, writes_render _⟩
  refine ⟨⟨⟨_, spelling_limitJson, writes_render _⟩, decode_limitJson⟩, hspells, ?_⟩
  exact (decode_of_spells hspells).trans (if_neg (Nat.not_succ_le_self _))

end Schema

end ScopeGen
