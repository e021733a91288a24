import Mathlib.Data.List.Basic
import ScopeGen.Proofs.Json.Types

/-!
# Proofs/Json/RoundTrip — reading undoes writing

`Schema` names the types that are written and read.  A value of any of them is read back from its
compact text exactly when the text is nested no deeper than is read, and no two values have the same
text.  **Rewriting** a text is reading it and writing the value: since a field that is left out is
written, the new text can be nested one level deeper than the old one, and right at the limit it is
not read again (`Schema.rewrite_limitJson`).
-/

namespace ScopeGen

open Json Source

/-! ## Different values are written differently -/

/-- Values that are read back at every depth are written differently. -/
theorem Json.injective_of_givesBack {α : Type} {read : Nat → Draft → Except Refusal α}
    {outline : α → Outline} {write : α → Json} (hwrite : ∀ a, (outline a).json = write a)
    (h : ∀ n a, GivesBack n (read n) (outline a) a) : Function.Injective write := by
  intro a b hab
  rw [← hwrite a, ← hwrite b] at hab
  have hread : ∀ c, (outline c).json = (outline b).json →
      read (outline b).json.depth ((Draft.ofJson (outline b).json).prune (outline b).json.depth) =
        .ok c := fun c hc => by
    rw [← hc, h _ c _ (Nat.le_refl _) _ _ (spelling_json (outline c))]
    exact outcome_eq_ok_iff.2 (Nat.le_refl _)
  exact Except.ok.inj ((hread a hab).symm.trans (hread b rfl))

/-- A scope is its name. -/
theorem Scope.toJson_injective : Function.Injective Scope.toJson :=
  injective_of_givesBack (fun _ => rfl) fun _ => givesBack_scope

theorem Marker.toJson_injective : Function.Injective Marker.toJson :=
  injective_of_givesBack Marker.json_outline fun _ => Marker.givesBack

/-- There is a reader for every depth, so values are told apart however deep they are. -/
theorem Value.toJson_injective : Function.Injective Value.toJson :=
  injective_of_givesBack Value.json_outline Value.givesBack_readLevels

theorem Annot.toJson_injective : Function.Injective Annot.toJson :=
  injective_of_givesBack Annot.json_outline fun n =>
    Annot.givesBack_readWith (Value.givesBack_readLevels n)

theorem Member.toJson_injective : Function.Injective Member.toJson :=
  injective_of_givesBack Member.json_outline fun n =>
    Member.givesBack_readWith (Value.givesBack_readLevels n)

theorem Parameter.toJson_injective : Function.Injective Parameter.toJson :=
  injective_of_givesBack Parameter.json_outline fun _ => Parameter.givesBack

theorem Signature.toJson_injective : Function.Injective Signature.toJson :=
  injective_of_givesBack Signature.json_outline fun _ => Signature.givesBack

theorem Role.toJson_injective : Function.Injective Role.toJson :=
  injective_of_givesBack Role.json_outline fun _ => Role.givesBack

theorem Call.toJson_injective : Function.Injective Call.toJson :=
  injective_of_givesBack Call.json_outline fun _ => Call.givesBack

theorem Override.toJson_injective : Function.Injective Override.toJson :=
  injective_of_givesBack Override.json_outline fun _ => Override.givesBack

/-- Methods are read with a fixed number of levels, which may be too few: they are compared field by
field instead, and so are classes and generated classes. -/
theorem Method.toJson_injective : Function.Injective Method.toJson := fun a b h => by
  obtain ⟨signature, annotations⟩ := a
  obtain ⟨signature', annotations'⟩ := b
  simp only [Method.toJson, Json.obj.injEq, List.cons.injEq, Prod.mk.injEq, Json.arr.injEq,
    true_and, and_true] at h
  obtain ⟨hsignature, hannotations⟩ := h
  rw [Signature.toJson_injective hsignature, Annot.toJson_injective.list_map hannotations]

theorem ClassDecl.toJson_injective : Function.Injective ClassDecl.toJson := fun a b h => by
  obtain ⟨name, methods, annotations⟩ := a
  obtain ⟨name', methods', annotations'⟩ := b
  simp only [ClassDecl.toJson, Json.obj.injEq, List.cons.injEq, Prod.mk.injEq, Json.str.injEq,
    Json.arr.injEq, true_and, and_true] at h
  obtain ⟨hname, hmethods, hannotations⟩ := h
  rw [hname, Method.toJson_injective.list_map hmethods,
    Annot.toJson_injective.list_map hannotations]

theorem Subclass.toJson_injective : Function.Injective Subclass.toJson := fun a b h => by
  obtain ⟨name, package, superclass, doc, modifiers, annotations, methods⟩ := a
  obtain ⟨name', package', superclass', doc', modifiers', annotations', methods'⟩ := b
  simp only [Subclass.toJson, Json.obj.injEq, List.cons.injEq, Prod.mk.injEq, Json.str.injEq,
    Json.arr.injEq, true_and, and_true] at h
  obtain ⟨hname, hpackage, hsuperclass, hdoc, hmodifiers, hannotations, hmethods⟩ := h
  have hdoc : doc = doc' :=
    injective_of_givesBack (fun _ => rfl) (fun _ => givesBack_optionText) hdoc
  have hmodifiers : modifiers = modifiers' :=
    injective_of_givesBack Outline.json_strs (fun _ => givesBack_strs) hmodifiers
  rw [hname, hpackage, hsuperclass, hdoc, hmodifiers,
    Annot.toJson_injective.list_map hannotations, Override.toJson_injective.list_map hmethods]

/-! ## The types -/

/-- A type of values that are written and read. -/
inductive Schema where
  | cls | method | signature | parameter
  | annot | member | value | marker | scope
  | subclass | override | role | call

namespace Schema

/-- The values of the type. -/
def Carrier : Schema → Type
  | cls => ClassDecl
  | method => Method
  | signature => Signature
  | parameter => Parameter
  | annot => Annot
  | member => Member
  | value => Value
  | marker => Marker
  | scope => Scope
  | subclass => Subclass
  | override => Override
  | role => Role
  | call => Call

/-- How a value of the type is written. -/
def toJson : (s : Schema) → s.Carrier → Json
  | cls => ClassDecl.toJson
  | method => Method.toJson
  | signature => Signature.toJson
  | parameter => Parameter.toJson
  | annot => Annot.toJson
  | member => Member.toJson
  | value => Value.toJson
  | marker => Marker.toJson
  | scope => Scope.toJson
  | subclass => Subclass.toJson
  | override => Override.toJson
  | role => Role.toJson
  | call => Call.toJson

/-- What is free in the spelling of a value. -/
def outline : (s : Schema) → s.Carrier → Outline
  | cls => ClassDecl.outline
  | method => Method.outline
  | signature => Signature.outline
  | parameter => Parameter.outline
  | annot => Annot.outline
  | member => Member.outline
  | value => Value.outline
  | marker => Marker.outline
  | scope => fun scope => .str scope.name
  | subclass => Subclass.outline
  | override => Override.outline
  | role => Role.outline
  | call => Call.outline

/-- How a value of the type is read. -/
def read : (s : Schema) → Draft → Except Refusal s.Carrier
  | cls => ClassDecl.read
  | method => Method.read
  | signature => Signature.read
  | parameter => Parameter.read
  | annot => Annot.read
  | member => Member.read
  | value => Value.read
  | marker => Marker.read
  | scope => Source.scope
  | subclass => Subclass.read
  | override => Override.read
  | role => Role.read
  | call => Call.read

/-- The compact text of a value. -/
def write (s : Schema) (v : s.Carrier) : String := render (s.toJson v)

/-- Reads a text and writes the value that it holds. -/
def rewrite (s : Schema) (text : String) : Except Refusal String := s.write <$> decode s.read text

variable (s : Schema)

/-- What the outline of a value writes is what is written for it. -/
theorem json_outline (v : s.Carrier) : (s.outline v).json = s.toJson v := by
  cases s with
  | cls => exact ClassDecl.json_outline v
  | method => exact Method.json_outline v
  | signature => exact Signature.json_outline v
  | parameter => exact Parameter.json_outline v
  | annot => exact Annot.json_outline v
  | member => exact Member.json_outline v
  | value => exact Value.json_outline v
  | marker => exact Marker.json_outline v
  | scope => rfl
  | subclass => exact Subclass.json_outline v
  | override => exact Override.json_outline v
  | role => exact Role.json_outline v
  | call => exact Call.json_outline v

/-- **Every type is read back** from the spellings of its values, to the depth that is read. -/
theorem givesBack (v : s.Carrier) : GivesBack Draft.nestingLimit s.read (s.outline v) v := by
  cases s with
  | cls => exact ClassDecl.givesBack v
  | method => exact Method.givesBack v
  | signature => exact Signature.givesBack v
  | parameter => exact Parameter.givesBack v
  | annot => exact Annot.givesBack v
  | member => exact Member.givesBack v
  | value => exact Value.givesBack v
  | marker => exact Marker.givesBack v
  | scope => exact givesBack_scope v
  | subclass => exact Subclass.givesBack v
  | override => exact Override.givesBack v
  | role => exact Role.givesBack v
  | call => exact Call.givesBack v

/-- Different values of a type are written differently, at any depth. -/
theorem toJson_injective : Function.Injective s.toJson := by
  cases s with
  | cls => exact ClassDecl.toJson_injective
  | method => exact Method.toJson_injective
  | signature => exact Signature.toJson_injective
  | parameter => exact Parameter.toJson_injective
  | annot => exact Annot.toJson_injective
  | member => exact Member.toJson_injective
  | value => exact Value.toJson_injective
  | marker => exact Marker.toJson_injective
  | scope => exact Scope.toJson_injective
  | subclass => exact Subclass.toJson_injective
  | override => exact Override.toJson_injective
  | role => exact Role.toJson_injective
  | call => exact Call.toJson_injective

variable {s}

/-- What is written is one of the spellings. -/
theorem spelling_toJson (v : s.Carrier) :
    Spelling (s.outline v) (Draft.ofJson (s.toJson v)) (s.toJson v).depth := by
  rw [← json_outline]
  exact spelling_json _

/-- What is written is read back unless it is too deep. -/
theorem decode_write (v : s.Carrier) :
    decode s.read (s.write v) = outcome Draft.nestingLimit (s.toJson v).depth v := by
  rw [write, decode_render]
  exact s.givesBack v _ (Nat.le_refl _) _ _ (spelling_toJson v)

/-- What is written is its own rewriting unless it is too deep. -/
theorem rewrite_write (v : s.Carrier) :
    s.rewrite (s.write v) = outcome Draft.nestingLimit (s.toJson v).depth (s.write v) := by
  rw [rewrite, decode_write, map_outcome]

/-! ## The round trip -/

/-- **Reading undoes writing, to the depth that is read.**  Texts tell values apart at any depth; a
text that is accepted can be rewritten any number of times, unless its first rewriting is nested too
deep and so is refused. -/
theorem round_trip (s : Schema) :
    (∀ v : s.Carrier, decode s.read (s.write v) =
      if (s.toJson v).depth ≤ Draft.nestingLimit then .ok v else .error .tooDeep) ∧
    Function.Injective s.write ∧
    ∀ (text : String) (v : s.Carrier), decode s.read text = .ok v →
      s.rewrite text = .ok (s.write v) ∧
      s.rewrite (s.write v) =
        if (s.toJson v).depth ≤ Draft.nestingLimit then .ok (s.write v) else .error .tooDeep := by
  refine ⟨decode_write, render_injective.comp s.toJson_injective, fun text v h => ⟨?_, ?_⟩⟩
  · rw [rewrite, h]
    rfl
  · exact rewrite_write v

/-! ## At the limit -/

/-- A value inside so many lists of one item each. -/
def wrapped : Nat → Value → Value
  | 0, v => v
  | k + 1, v => .list [wrapped k v]

/-- What is written for a value inside so many lists of one item each. -/
def wrappedJson : Nat → Json → Json
  | 0, j => j
  | k + 1, j => .obj [("List", .arr [wrappedJson k j])]

/-- The lists are written around what is written for the value. -/
theorem toJson_wrapped (k : Nat) (v : Value) : (wrapped k v).toJson = wrappedJson k v.toJson := by
  induction k with
  | zero => rfl
  | succ k ih => rw [wrapped, wrappedJson, Value.toJson, Value.toJsons_eq_map, ← ih]; rfl

/-- A list is an array in an object. -/
theorem depth_wrappedJson (k : Nat) (j : Json) : (wrappedJson k j).depth = 2 * k + j.depth := by
  induction k with
  | zero => exact (Nat.zero_add _).symm
  | succ k ih =>
    rw [wrappedJson, Json.depth, entryDepth, Json.depth, itemDepth, itemDepth, entryDepth, ih]
    omega

/-- Lists around a value are spelled with it, however it is spelled. -/
theorem spelling_wrapped {v : Value} {j : Json} {depth : Nat}
    (h : Spelling v.outline (Draft.ofJson j) depth) (k : Nat) :
    Spelling (wrapped k v).outline (Draft.ofJson (wrappedJson k j)) (2 * k + depth) := by
  induction k with
  | zero =>
    rw [Nat.zero_add]
    exact h
  | succ k ih =>
    have hdepth : 2 * (k + 1) + depth = max (2 * k + depth) 0 + 1 + 1 := by omega
    rw [wrapped, Value.outline, Value.outlines_eq_map, hdepth]
    exact .filled (.items (.cons ih .nil))

/-- What may be written for an annotation without members and marker. -/
def barelyNamed (name : String) : Json := .obj [("Annotation", .obj [("name", .str name)])]

/-- Without members and marker an annotation is two levels deep, and written out it is three. -/
theorem spelling_barelyNamed (name : String) :
    Spelling (Value.annot ⟨name, [], .other⟩).outline (Draft.ofJson (barelyNamed name)) 2 := by
  have hdepth : 2 = max 0 0 + 1 + 1 := rfl
  rw [Value.outline, Annot.outline, hdepth]
  refine .filled (.named (.first (.only (.str name)) (.nil ?_)))
  simp [Slot.optional]

/-- A member that holds an annotation inside 62 lists. -/
def limitMember : Member := ⟨"m", wrapped 62 (.annot ⟨"x", [], .other⟩)⟩

/-- What may be written for it, with as many levels as are read. -/
def limitJson : Json :=
  .obj [("name", .str "m"), ("value", wrappedJson 62 (barelyNamed "x"))]

/-- Written out, it is one level too deep. -/
theorem depth_toJson_limitMember :
    (Schema.member.toJson limitMember).depth = Draft.nestingLimit + 1 := by
  have hjson : Schema.member.toJson limitMember = limitMember.toJson := rfl
  rw [hjson, limitMember, Member.toJson, toJson_wrapped, Json.depth, entryDepth, entryDepth,
    depth_wrappedJson]
  rfl

/-- As it may be written, it is as deep as is read. -/
theorem spelling_limitJson :
    Spelling limitMember.outline (Draft.ofJson limitJson) Draft.nestingLimit := by
  have hdepth : Draft.nestingLimit = max 0 (max (2 * 62 + 2) 0) + 1 := rfl
  rw [limitMember, Member.outline, hdepth]
  exact .named (.first (.only (.str "m"))
    (.first (spelling_wrapped (spelling_barelyNamed "x") 62) (.nil (by simp))))

theorem decode_limitJson : decode Schema.member.read (render limitJson) = .ok limitMember := by
  rw [decode_render]
  exact (Member.givesBack limitMember _ (Nat.le_refl _) _ _ spelling_limitJson).trans
    (outcome_eq_ok_iff.2 (Nat.le_refl _))

/-- **At the limit an accepted text is rewritten to one that is refused**: the list of members that
the text leaves out is one more level when it is written. -/
theorem rewrite_limitJson :
    Schema.member.rewrite (render limitJson) = .ok (Schema.member.write limitMember) ∧
    Schema.member.rewrite (Schema.member.write limitMember) = .error .tooDeep := by
  refine ⟨?_, ?_⟩
  · rw [rewrite, decode_limitJson]
    rfl
  · refine (rewrite_write (s := .member) limitMember).trans ?_
    rw [depth_toJson_limitMember]
    exact if_neg (Nat.not_succ_le_self _)

end Schema

end ScopeGen
