import ScopeGen.Proofs.Json.Reading

/-!
# Proofs/Json/Record — records are read back from any spelling

A record has a **part** for each field, which reads a value and sets it in the record.  The parts
set different fields, so it does not matter in which order they are set (`Part.Independent`).  What
may be left out is the same in the blank record from which reading starts, and stays so until it is
set (`Part.Spare`).  With both, the entries of a record may come in any order, and unknown ones
between them (`Part.readNamed_of_entrySpellings`).
-/

namespace ScopeGen.Json

open Draft Source

variable {α ρ : Type} {n : Nat}

/-! ## Parts -/

/-- A field of a record that is read from drafts. -/
abbrev DraftField (ρ : Type) := Field Draft (Except Refusal) ρ

/-- A field that gives back how it is set in a record, from what a slot with its name holds.  What
the slot may leave out, the field may leave out too, and the blank record holds it. -/
structure Part (n : Nat) (blank : ρ) where
  field : DraftField ρ
  absence : Absence
  content : Outline
  set : ρ → ρ
  givesBack : GivesBack n field.read content set
  absence_eq : absence = .never ∨ absence = field.absence ∧ set blank = blank

namespace Part

variable {blank : ρ}

/-- The slot that the part is read from. -/
def slot (p : Part n blank) : Slot := ⟨p.field.name, p.absence, p.content⟩

/-- A slot that may be left out has the absence of its field. -/
theorem field_absence (p : Part n blank) (h : p.absence ≠ .never) :
    p.field.absence = p.absence :=
  (p.absence_eq.resolve_left h).1.symm

/-- A field that has to be there. -/
def required (name : String) {read : Draft → Except Refusal α} {outline : Outline} {a : α}
    (h : GivesBack n read outline a) (set : α → ρ → ρ) : Part n blank where
  field := Source.required name read set
  absence := .never
  content := outline
  set := set a
  givesBack := h.map set
  absence_eq := .inl rfl

/-- A field with a default, when it may be left out while it holds that. -/
def optional (name : String) (absence : Absence) {read : Draft → Except Refusal α}
    {outline : Outline} {a : α} (h : GivesBack n read outline a) (set : α → ρ → ρ)
    (holdsDefault : Bool) (hdefault : holdsDefault → set a blank = blank) : Part n blank where
  field := ⟨name, absence, fun d => set <$> read d⟩
  absence := if holdsDefault then absence else .never
  content := outline
  set := set a
  givesBack := h.map set
  absence_eq := by
    cases holdsDefault with
    | true => exact .inr ⟨rfl, hdefault rfl⟩
    | false => exact .inl rfl

section

variable (name : String) {read : Draft → Except Refusal α} {outline : Outline} {a : α}
  (h : GivesBack n read outline a) (set : α → ρ → ρ)

@[simp] theorem name_required : (required name h set : Part n blank).field.name = name := rfl

@[simp] theorem set_required : (required name h set : Part n blank).set = set a := rfl

variable (absence : Absence) (b : Bool) (hdefault : b → set a blank = blank)

@[simp] theorem name_optional : (optional name absence h set b hdefault).field.name = name := rfl

@[simp] theorem set_optional : (optional name absence h set b hdefault).set = set a := rfl

end

/-! ## Setting parts -/

/-- The parts may be set in any order. -/
def Independent (parts : List (Part n blank)) : Prop :=
  ∀ p ∈ parts, ∀ q ∈ parts, ∀ r : ρ, p.set (q.set r) = q.set (p.set r)

/-- So may some of them. -/
theorem Independent.subset {parts parts' : List (Part n blank)} (h : Independent parts)
    (hsubset : parts' ⊆ parts) : Independent parts' :=
  fun p hp q hq => h p (hsubset hp) q (hsubset hq)

/-- The record in which all these parts are set. -/
def setAll (parts : List (Part n blank)) (r : ρ) : ρ := parts.foldl (fun r p => p.set r) r

/-- What may be left out of these parts is in the record already. -/
def Spare (parts : List (Part n blank)) (r : ρ) : Prop :=
  ∀ p ∈ parts, p.absence ≠ .never → p.set r = r

/-- The blank record holds what may be left out. -/
theorem spare_blank (parts : List (Part n blank)) : Spare parts blank :=
  fun p _ hp => (p.absence_eq.resolve_left hp).2

/-- Setting one part leaves the others as they are. -/
theorem Spare.set {parts : List (Part n blank)} {r : ρ} (h : Spare parts r) {p : Part n blank}
    (hparts : Independent (p :: parts)) : Spare parts (p.set r) := fun q hq hnever => by
  rw [hparts q (List.mem_cons_of_mem p hq) p List.mem_cons_self, h q hq hnever]

/-- Setting what may be left out changes nothing. -/
theorem Spare.setAll_eq {parts : List (Part n blank)} {r : ρ} (h : Spare parts r)
    (hnever : ∀ p ∈ parts, p.absence ≠ .never) : setAll parts r = r := by
  induction parts with
  | nil => rfl
  | cons p parts ih =>
    rw [setAll, List.foldl_cons, h p List.mem_cons_self (hnever p List.mem_cons_self)]
    exact ih (fun q hq => h q (List.mem_cons_of_mem p hq))
      fun q hq => hnever q (List.mem_cons_of_mem p hq)

/-! ## Fields without names -/

variable {m : Nat}

/-- Nothing more has to stand when all fields that are left may be left out. -/
theorem readPositional_nil {parts : List (Part n blank)} {r : ρ} (hspare : Spare parts r)
    (halways : ∀ s ∈ parts.map slot, s.absence = .always) (expected : String)
    (before m : Nat) :
    readPositional expected before (parts.map field) r [] = outcome m 0 (setAll parts r) := by
  have habsence : ∀ p ∈ parts, p.absence = .always := fun p hp =>
    halways p.slot (List.mem_map_of_mem hp)
  have hnever : ∀ p ∈ parts, p.absence ≠ .never := fun p hp => by simp [habsence p hp]
  have hfields : (parts.map field).findIdx? (·.absence ≠ .always) = none := by
    refine List.findIdx?_eq_none_iff.2 fun f hf => ?_
    obtain ⟨p, hp, rfl⟩ := List.mem_map.1 hf
    simp [(p.field_absence (hnever p hp)).trans (habsence p hp)]
  rw [hspare.setAll_eq hnever, outcome_zero, readPositional, hfields]
  rfl

/-- **Fields are read back in order**, up to those that are left out in the end. -/
theorem readPositional_of_fieldSpellings (hm : m ≤ n) {expected : String} :
    ∀ {parts : List (Part n blank)} {items : List Draft} {before k : Nat} {r : ρ},
      Independent parts → Spare parts r → FieldSpellings (parts.map slot) items k →
        readPositional expected before (parts.map field) r (items.map (prune m)) =
          outcome m k (setAll parts r)
  | [], _, before, _, _, _, hspare, .nil halways =>
    readPositional_nil hspare halways expected before m
  | _ :: _, _, before, _, _, _, hspare, .nil halways =>
    readPositional_nil hspare halways expected before m
  | p :: parts, _, _, _, _, hparts, hspare, .cons hd hitems => by
      have hrest := Spare.set (fun q hq => hspare q (List.mem_cons_of_mem p hq)) hparts
      rw [List.map_cons, List.map_cons, readPositional, p.givesBack m hm _ _ hd]
      refine outcome_bind _ _ _ _ ?_
      exact readPositional_of_fieldSpellings hm (hparts.subset (List.subset_cons_self p parts))
        hrest hitems

/-! ## Fields with names -/

/-- A part is set before the others just as well. -/
theorem setAll_middle {before after : List (Part n blank)} {p : Part n blank}
    (hparts : Independent (before ++ p :: after)) (r : ρ) :
    setAll (before ++ p :: after) r = setAll (before ++ after) (p.set r) :=
  List.perm_middle.foldl_eq' (fun q hq q' hq' => hparts q' hq' q hq) r

/-- Of elements with different names, each is found by its name. -/
theorem find?_name_of_nodup {β : Type} {name : β → String} {bs : List β} {b : β}
    (hnames : (bs.map name).Nodup) (hb : b ∈ bs) :
    bs.find? (fun c => name c = name b) = some b := by
  induction bs with
  | nil => exact absurd hb List.not_mem_nil
  | cons c bs ih =>
    rw [List.map_cons, List.nodup_cons] at hnames
    obtain rfl | hb := List.mem_cons.1 hb
    · exact List.find?_cons_of_pos (by simp)
    · have hne : name c ≠ name b := fun h => hnames.1 (h ▸ List.mem_map_of_mem hb)
      rw [List.find?_cons_of_neg (by simpa using hne), ih hnames.2 hb]

/-- A part is found by its own name. -/
theorem find?_field {parts : List (Part n blank)} {p : Part n blank}
    (hnames : (parts.map (·.field.name)).Nodup) (hp : p ∈ parts) :
    (parts.map field).find? (·.name = p.field.name) = some p.field :=
  find?_name_of_nodup (by rwa [List.map_map]) (List.mem_map_of_mem hp)

/-- By any other name nothing is found. -/
theorem find?_eq_none {parts : List (Part n blank)} {name : String}
    (hname : name ∉ parts.map (·.field.name)) :
    (parts.map field).find? (·.name = name) = none := by
  refine List.find?_eq_none.2 fun f hf => ?_
  obtain ⟨p, hp, rfl⟩ := List.mem_map.1 hf
  simp only [decide_eq_true_eq]
  exact fun heq => hname (List.mem_map.2 ⟨p, hp, heq⟩)

/-- Nothing is missing when all that is left may be left out. -/
theorem find?_missing {parts gone left : List (Part n blank)} (hperm : (gone ++ left).Perm parts)
    (hleft : ∀ p ∈ left, p.absence ≠ .never) :
    (parts.map field).find? (fun f => f.absence = .never ∧ f.name ∉ gone.map (·.field.name)) =
      none := by
  refine List.find?_eq_none.2 fun f hf => ?_
  obtain ⟨p, hp, rfl⟩ := List.mem_map.1 hf
  simp only [decide_eq_true_eq, not_and, not_not]
  intro hnever
  obtain hgone | hp := List.mem_append.1 (hperm.mem_iff.2 hp)
  · exact List.mem_map_of_mem hgone
  · exact absurd ((p.field_absence (hleft p hp)).symm.trans hnever) (hleft p hp)

/-- A part goes over from those that are left to those that are read. -/
theorem perm_read {parts gone before after : List (Part n blank)} {p : Part n blank}
    (hperm : (gone ++ (before ++ p :: after)).Perm parts) :
    (p :: gone ++ (before ++ after)).Perm parts := by
  refine .trans ?_ hperm
  rw [← List.append_assoc, ← List.append_assoc]
  exact List.perm_middle.symm

/-- A part that is read now has not been read before. -/
theorem name_notMem_gone {parts gone left : List (Part n blank)} {p : Part n blank}
    (hnames : (parts.map (·.field.name)).Nodup) (hperm : (p :: gone ++ left).Perm parts) :
    p.field.name ∉ gone.map (·.field.name) := by
  have hnodup := (hperm.map (·.field.name)).nodup_iff.2 hnames
  rw [List.cons_append, List.map_cons, List.nodup_cons, List.map_append] at hnodup
  exact fun hgone => hnodup.1 (List.mem_append_left _ hgone)

/-- **Named fields are read back from entries in any order.**  Of all parts those in `gone` have
been read, last one first, and those in `left` have not. -/
theorem readNamed_of_entrySpellings (hm : m ≤ n) {parts : List (Part n blank)}
    (hnames : (parts.map (·.field.name)).Nodup) (hparts : Independent parts) :
    ∀ {entries : List (Option String × Draft)} {gone left : List (Part n blank)} {slots : List Slot}
      {k : Nat} {r : ρ}, (gone ++ left).Perm parts → left.map slot = slots → Spare left r →
      EntrySpellings (parts.map (·.field.name)) slots entries k →
        readNamed (parts.map field) (gone.map (·.field.name)) r
            (entries.map fun (key, d) => (key, prune m d)) =
          outcome m k (setAll left r)
  | [], _, left, _, _, r, hperm, hleft, hspare, .nil hnever => by
      have hspared : ∀ p ∈ left, p.absence ≠ .never := fun p hp =>
        hnever p.slot (hleft ▸ List.mem_map_of_mem hp)
      rw [List.map_nil, readNamed, find?_missing hperm hspared, outcome_zero,
        hspare.setAll_eq hspared]
      rfl
  | _ :: _, gone, _, _, _, r, hperm, hleft, hspare, .field hd hentries => by
      obtain ⟨before, _, rfl, rfl, hafter⟩ := List.map_eq_append_iff.1 hleft
      obtain ⟨p, after, rfl, rfl, rfl⟩ := List.map_eq_cons_iff.1 hafter
      have hperm' := perm_read hperm
      have hsubset : before ++ p :: after ⊆ parts := fun q hq =>
        hperm.mem_iff.1 (List.mem_append_right gone hq)
      have hp : p ∈ parts := hsubset (List.mem_append_right before List.mem_cons_self)
      have hrest : Spare (before ++ after) r := fun q hq =>
        hspare q (List.perm_middle.mem_iff.2 (List.mem_cons_of_mem p hq))
      have hspare' : Spare (before ++ after) (p.set r) :=
        hrest.set (hparts.subset (List.Subset.trans List.perm_middle.symm.subset hsubset))
      rw [List.map_cons, readNamed, slot, find?_field hnames hp]
      simp only [if_neg (name_notMem_gone hnames hperm')]
      rw [p.givesBack m hm _ _ hd, setAll_middle (hparts.subset hsubset)]
      refine outcome_bind _ _ _ _ ?_
      exact readNamed_of_entrySpellings hm hnames hparts hperm' List.map_append hspare' hentries
  | _ :: _, _, _, _, _, _, hperm, hleft, hspare, .other hname hsound hentries => by
      have hpass : ∀ {d : Draft}, d.isSound →
          Source.pass (d.prune m) = (.ok () : Except Refusal Unit) := fun hd =>
        if_pos (isSound_prune hd)
      rw [List.map_cons, readNamed, find?_eq_none hname]
      simp only [hpass hsound]
      exact readNamed_of_entrySpellings hm hnames hparts hperm hleft hspare hentries

/-- **A record is read back from each of its spellings.** -/
theorem givesBack_record {sort : String} (parts : List (Part n blank))
    (hnames : (parts.map (·.field.name)).Nodup) (hparts : Independent parts) :
    GivesBack n (record sort (parts.map field) blank) (.record (parts.map slot))
      (setAll parts blank) := by
  intro m hm d k hd
  cases m with
  | zero =>
    cases hd <;> rfl
  | succ m =>
    have hm : m ≤ n := Nat.le_of_succ_le hm
    cases hd with
    | named hentries =>
      have hperm : ([] ++ parts).Perm parts := .refl parts
      rw [List.map_map] at hentries
      rw [outcome_succ_succ, ← readNamed_of_entrySpellings hm hnames hparts hperm rfl
        (spare_blank parts) hentries]
      rfl
    | positional hitems =>
      rw [outcome_succ_succ,
        ← readPositional_of_fieldSpellings hm hparts (spare_blank parts) hitems]
      rfl

end Part

end ScopeGen.Json
