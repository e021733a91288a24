import ScopeGen.Proofs.Json.Compact
import ScopeGen.Proofs.Json.Nesting
import ScopeGen.Source.Basic

/-!
# Proofs/Json/Spelling — the ways to spell a value

    {"name":"A","members":[],"kind":"Other"}                   as it is written
    {"kind":{"Other":null},"since":[1.5],"name":"A"}           entries in any order
    ["A",[]]                                                   fields without their names

The **outline** of a value says what is a record in it, a list or an alternative, and which fields
hold a default.  `Spelling` relates it to the drafts that stand for the value: by induction on the
outline, with the freedom that each part has at its own level.  What is written is one of them
(`spelling_json`).
-/

namespace ScopeGen.Json

open Source Draft

/-! ## Outlines -/

mutual

/-- A value as it is written, with what is free in its spelling. -/
inductive Outline where
  /-- a value with one spelling -/
  | only (j : Json)
  | items (outlines : List Outline)
  | record (slots : List Slot)
  /-- an alternative with content -/
  | filled (name : String) (content : Outline)
  /-- an alternative without content -/
  | bare (name : String)

/-- A field of a record with what it holds, and when that may be left out. -/
structure Slot where
  name : String
  absence : Absence
  content : Outline

end

/-- A field that has to be there. -/
def Slot.required (name : String) (content : Outline) : Slot := ⟨name, .never, content⟩

/-- A field that may be left out while it holds its default. -/
def Slot.optional (name : String) (absence : Absence) (holdsDefault : Bool) (content : Outline) :
    Slot :=
  ⟨name, if holdsDefault then absence else .never, content⟩

mutual

/-- The value as it is written. -/
def Outline.json : Outline → Json
  | .only j => j
  | .items outlines => .arr (Outline.jsons outlines)
  | .record slots => .obj (Slot.entries slots)
  | .filled name content => .obj [(name, content.json)]
  | .bare name => .str name

/-- The items as they are written, which the recursion takes one by one. -/
def Outline.jsons : List Outline → List Json
  | [] => []
  | outline :: rest => outline.json :: Outline.jsons rest

def Slot.entries : List Slot → List (String × Json)
  | [] => []
  | ⟨name, _, content⟩ :: rest => (name, content.json) :: Slot.entries rest

end

theorem Outline.jsons_eq_map (outlines : List Outline) :
    Outline.jsons outlines = outlines.map Outline.json := by
  induction outlines with
  | nil => rfl
  | cons outline rest ih => rw [Outline.jsons, ih, List.map_cons]

/-- The outline of a text. -/
def Outline.str (text : String) : Outline := .only (.str text)

/-- The outline of a list of texts. -/
def Outline.strs (texts : List String) : Outline := .items (texts.map .str)

/-! ## Spellings -/

mutual

/-- The draft spells the value with this outline.  The number is how deep it is nested, without what
is passed over. -/
inductive Spelling : Outline → Draft → Nat → Prop where
  | only (j : Json) : Spelling (.only j) (ofJson j) j.depth
  | items {outlines : List Outline} {items : List Draft} {k : Nat} :
      ItemSpellings outlines items k → Spelling (.items outlines) (.arr items) (k + 1)
  /-- a record with its entries in any order -/
  | named {slots : List Slot} {entries : List (Option String × Draft)} {k : Nat} :
      EntrySpellings (slots.map Slot.name) slots entries k →
        Spelling (.record slots) (.obj entries) (k + 1)
  /-- a record without the names of its fields -/
  | positional {slots : List Slot} {items : List Draft} {k : Nat} :
      FieldSpellings slots items k → Spelling (.record slots) (.arr items) (k + 1)
  | filled {name : String} {content : Outline} {d : Draft} {k : Nat} :
      Spelling content d k → Spelling (.filled name content) (.obj [(some name, d)]) (k + 1)
  | bare (name : String) : Spelling (.bare name) (.str (some name)) 0
  | emptied (name : String) : Spelling (.bare name) (.obj [(some name, .null)]) 1

/-- The drafts spell the values in turn. -/
inductive ItemSpellings : List Outline → List Draft → Nat → Prop where
  | nil : ItemSpellings [] [] 0
  | cons {outline : Outline} {outlines : List Outline} {d : Draft} {items : List Draft}
      {k k' : Nat} :
      Spelling outline d k → ItemSpellings outlines items k' →
        ItemSpellings (outline :: outlines) (d :: items) (max k k')

/-- The entries spell the fields, which may be left out where their absence says so.  Between them
may stand any sound values under other names than these. -/
inductive EntrySpellings : List String → List Slot → List (Option String × Draft) → Nat → Prop where
  | nil {names : List String} {slots : List Slot} :
      (∀ slot ∈ slots, slot.absence ≠ .never) → EntrySpellings names slots [] 0
  | field {names : List String} {before after : List Slot} {slot : Slot} {d : Draft}
      {entries : List (Option String × Draft)} {k k' : Nat} :
      Spelling slot.content d k → EntrySpellings names (before ++ after) entries k' →
        EntrySpellings names (before ++ slot :: after) ((some slot.name, d) :: entries) (max k k')
  | other {names : List String} {slots : List Slot} {name : String} {d : Draft}
      {entries : List (Option String × Draft)} {k : Nat} :
      name ∉ names → d.isSound → EntrySpellings names slots entries k →
        EntrySpellings names slots ((some name, d) :: entries) k

/-- The drafts spell the fields in turn; the last fields may be left out where their absence says
that they need no name for it. -/
inductive FieldSpellings : List Slot → List Draft → Nat → Prop where
  | nil {slots : List Slot} :
      (∀ slot ∈ slots, slot.absence = .always) → FieldSpellings slots [] 0
  | cons {slot : Slot} {slots : List Slot} {d : Draft} {items : List Draft} {k k' : Nat} :
      Spelling slot.content d k → FieldSpellings slots items k' →
        FieldSpellings (slot :: slots) (d :: items) (max k k')

end

/-- The first field may come first. -/
theorem EntrySpellings.first {names : List String} {slot : Slot} {slots : List Slot} {d : Draft}
    {entries : List (Option String × Draft)} {k k' : Nat} (hd : Spelling slot.content d k)
    (hentries : EntrySpellings names slots entries k') :
    EntrySpellings names (slot :: slots) ((some slot.name, d) :: entries) (max k k') :=
  @EntrySpellings.field names [] slots slot d entries k k' hd hentries

mutual

/-- **What is written spells the value.** -/
theorem spelling_json : ∀ outline : Outline,
    Spelling outline (ofJson outline.json) outline.json.depth
  | .only j => .only j
  | .items outlines => .items (itemSpellings_jsons outlines)
  | .record slots => .named (entrySpellings_entries _ slots)
  | .filled name content => by
      have hdepth : entryDepth [(name, content.json)] = content.json.depth := Nat.max_zero _
      rw [Outline.json, depth, hdepth]
      exact .filled (spelling_json content)
  | .bare name => .bare name

theorem itemSpellings_jsons : ∀ outlines : List Outline,
    ItemSpellings outlines (ofJsons (Outline.jsons outlines)) (itemDepth (Outline.jsons outlines))
  | [] => .nil
  | outline :: rest => .cons (spelling_json outline) (itemSpellings_jsons rest)

theorem entrySpellings_entries (names : List String) : ∀ slots : List Slot,
    EntrySpellings names slots (ofEntries (Slot.entries slots)) (entryDepth (Slot.entries slots))
  | [] => .nil nofun
  | ⟨name, absence, content⟩ :: rest =>
    @EntrySpellings.first _ ⟨name, absence, content⟩ _ _ _ _ _ (spelling_json content)
      (entrySpellings_entries names rest)

end

end ScopeGen.Json
