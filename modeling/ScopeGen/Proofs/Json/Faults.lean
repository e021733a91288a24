import Mathlib.Data.List.Induction
import ScopeGen.Proofs.Json.Kinds
import ScopeGen.Proofs.Json.Whole

/-!
# Proofs/Json/Faults — what is wrong with a record is told in order

    {"annotations":[],"annotations":7}     of a method: duplicate field `annotations`
    {"annotations":[],"other":7}           of a method: missing field `signature`

The entries of a record are gone through in text order.  A key that names a field is at **fault**
when the field has stood before, or else when its value is refused (`FaultAt`), and the first fault
is what is told.  Only where there is none, fields are looked for in order of declaration, and the
first one that has to be there and is not is told (`Refused`).  Other keys are never at fault.
-/

namespace ScopeGen.Json

open Draft Source

/-- The entries of an object all of whose keys can be read. -/
def keyed (entries : List (String × Draft)) : List (Option String × Draft) :=
  entries.map fun (key, d) => (some key, d)

section

variable (n : Nat) (fields : List FieldKind)

/-- What is wrong with an entry that comes after those in `before`.  Its value is read to `n`
levels. -/
inductive FaultAt (before : List (String × Draft)) (key : String) (d : Draft) : Refusal → Prop where
  /-- the field has stood before, whatever its value is now -/
  | repeated : key ∈ fields.map (·.name) → key ∈ before.map (·.1) →
      FaultAt before key d (.duplicateField key)
  /-- the value is refused, for its own reason -/
  | value {f : FieldKind} {refusal : Refusal} : f ∈ fields → f.name = key →
      key ∉ before.map (·.1) → f.kind.read (d.prune n) = .error refusal →
      FaultAt before key d refusal

/-- None of the entries is at fault. -/
def Faultless (entries : List (String × Draft)) : Prop :=
  ∀ (before : List (String × Draft)) (key : String) (d : Draft) (after : List (String × Draft)),
    entries = before ++ (key, d) :: after → ∀ refusal, ¬FaultAt n fields before key d refusal

/-- The first field, in order of declaration, that has to be there and is not. -/
def firstMissing? (entries : List (String × Draft)) : Option FieldKind :=
  fields.find? fun f => f.required ∧ f.name ∉ entries.map (·.1)

/-- What is told of the entries. -/
inductive Refused (entries : List (String × Draft)) : Refusal → Prop where
  /-- the first fault -/
  | fault {before : List (String × Draft)} {key : String} {d : Draft}
      {after : List (String × Draft)} {refusal : Refusal} :
      entries = before ++ (key, d) :: after → Faultless n fields before →
      FaultAt n fields before key d refusal → Refused entries refusal
  /-- without a fault, the first missing field -/
  | missing {f : FieldKind} : Faultless n fields entries →
      firstMissing? fields entries = some f → Refused entries (.missingField f.name)

/-- The result is what the entries call for: what is told of them, or else a value. -/
structure Verdict {α : Type} (entries : List (String × Draft)) (result : Except Refusal α) :
    Prop where
  refused : ∀ refusal, result = .error refusal ↔ Refused n fields entries refusal
  found : (∃ v, result = .ok v) ↔
    Faultless n fields entries ∧ ∀ f ∈ fields, f.required → f.name ∈ entries.map (·.1)

end

section

variable {n : Nat} {fields : List FieldKind} {before entries : List (String × Draft)}
  {key : String} {d : Draft}

theorem Faultless.nil : Faultless n fields [] := fun _ _ _ _ h => by simp at h

/-- One entry more is without fault when it is not at fault after the others. -/
theorem faultless_concat_iff : Faultless n fields (before ++ [(key, d)]) ↔
    Faultless n fields before ∧ ∀ refusal, ¬FaultAt n fields before key d refusal := by
  constructor
  · intro h
    refine ⟨fun front key' d' back hfront => ?_, h before key d [] rfl⟩
    exact h front key' d' (back ++ [(key, d)]) (by rw [hfront, List.append_assoc, List.cons_append])
  · rintro ⟨hbefore, hlast⟩ front key' d' back heq
    obtain rfl | ⟨back, last, rfl⟩ := List.eq_nil_or_concat' back
    · obtain ⟨rfl, hentry⟩ := List.append_inj' heq rfl
      obtain ⟨rfl, rfl⟩ := Prod.mk.inj (List.singleton_inj.1 hentry)
      exact hlast
    · rw [← List.cons_append, ← List.append_assoc] at heq
      obtain ⟨rfl, -⟩ := List.append_inj' heq rfl
      exact hbefore front key' d' back rfl

/-- **Either no entry is at fault, or there is a first one.** -/
theorem faultless_or_exists_fault (entries : List (String × Draft)) :
    Faultless n fields entries ∨
      ∃ before key d after refusal, entries = before ++ (key, d) :: after ∧
        Faultless n fields before ∧ FaultAt n fields before key d refusal := by
  induction entries using List.reverseRecOn with
  | nil => exact .inl .nil
  | append_singleton before entry ih =>
    obtain ⟨key, d⟩ := entry
    obtain hbefore | ⟨front, key', d', back, refusal, rfl, hfront, hfault⟩ := ih
    · by_cases hfault : ∃ refusal, FaultAt n fields before key d refusal
      · obtain ⟨refusal, hfault⟩ := hfault
        exact .inr ⟨before, key, d, [], refusal, rfl, hbefore, hfault⟩
      · exact .inl (faultless_concat_iff.2 ⟨hbefore, not_exists.1 hfault⟩)
    · refine .inr ⟨front, key', d', back ++ [(key, d)], refusal, ?_, hfront, hfault⟩
      rw [List.append_assoc, List.cons_append]

theorem firstMissing?_eq_none_iff : firstMissing? fields entries = none ↔
    ∀ f ∈ fields, f.required → f.name ∈ entries.map (·.1) := by
  simp only [firstMissing?, List.find?_eq_none, decide_eq_true_eq, not_and, not_not]

/-- A result that goes by the first fault, and without one by the first missing field. -/
theorem Verdict.of {α : Type} {result : Except Refusal α}
    (hfirst : ∀ {before key d after refusal}, entries = before ++ (key, d) :: after →
      Faultless n fields before → FaultAt n fields before key d refusal → result = .error refusal)
    (hend : Faultless n fields entries → ∃ v, result =
      (firstMissing? fields entries).elim (.ok v) fun f => .error (.missingField f.name)) :
    Verdict n fields entries result where
  refused refusal := by
    constructor
    · intro h
      obtain hfree | ⟨_, _, _, _, _, heq, hbefore, hfault⟩ := faultless_or_exists_fault entries
      · obtain ⟨v, hv⟩ := hend hfree
        cases hmissing : firstMissing? fields entries with
        | none =>
          rw [hmissing] at hv
          exact nomatch h.symm.trans hv
        | some f =>
          rw [hmissing] at hv
          obtain rfl := Except.error.inj (h.symm.trans hv)
          exact .missing hfree hmissing
      · obtain rfl := Except.error.inj (h.symm.trans (hfirst heq hbefore hfault))
        exact .fault heq hbefore hfault
    · intro h
      cases h with
      | fault heq hbefore hfault => exact hfirst heq hbefore hfault
      | missing hfree hmissing =>
        obtain ⟨v, hv⟩ := hend hfree
        rwa [hmissing] at hv
  found := by
    constructor
    · rintro ⟨v, h⟩
      obtain hfree | ⟨_, _, _, _, _, heq, hbefore, hfault⟩ := faultless_or_exists_fault entries
      · obtain ⟨v', hv⟩ := hend hfree
        refine ⟨hfree, firstMissing?_eq_none_iff.1 ?_⟩
        cases hmissing : firstMissing? fields entries with
        | none => rfl
        | some f =>
          rw [hmissing] at hv
          exact nomatch h.symm.trans hv
      · exact nomatch h.symm.trans (hfirst heq hbefore hfault)
    · rintro ⟨hfree, hall⟩
      obtain ⟨v, hv⟩ := hend hfree
      rw [firstMissing?_eq_none_iff.2 hall] at hv
      exact ⟨v, hv⟩

end

/-! ## Reading entries -/

section

variable {ρ : Type} {readers : List (DraftField ρ)} {n : Nat} {fields : List FieldKind}

/-- Of the fields, those have been seen that stand before. -/
def Tracks (fields : List FieldKind) (before : List (String × Draft)) (seen : List String) : Prop :=
  ∀ f ∈ fields, f.name ∈ seen ↔ f.name ∈ before.map (·.1)

variable {before entries : List (String × Draft)} {seen : List String} {key : String} {d : Draft}

theorem Tracks.field (h : Tracks fields before seen) :
    Tracks fields (before ++ [(key, d)]) (key :: seen) := by
  intro f hf
  rw [List.mem_cons, h f hf, List.map_append, List.mem_append, or_comm]
  exact or_congr_right List.mem_singleton.symm

theorem Tracks.other (h : Tracks fields before seen) (hkey : key ∉ fields.map (·.name)) :
    Tracks fields (before ++ [(key, d)]) seen := by
  intro f hf
  have hne : f.name ≠ key := fun heq => hkey (heq ▸ List.mem_map_of_mem hf)
  rw [h f hf, List.map_append, List.mem_append]
  exact (or_iff_left fun hlast => hne (List.mem_singleton.1 hlast)).symm

end

/-- Of two fields that are no texts, the one that stands first is told, with what stands there. -/
example :
    Parameter.read (Draft.obj (keyed [("name", .int 5), ("ty", .arr [])])) =
        .error (.invalidType (.integer 5) "a string") ∧
      Parameter.read (Draft.obj (keyed [("ty", .arr []), ("name", .int 5)])) =
        .error (.invalidType .list "a string") :=
  ⟨rfl, rfl⟩

end ScopeGen.Json
