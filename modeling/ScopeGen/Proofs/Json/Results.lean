import Mathlib.Data.List.Forall2
import ScopeGen.Proofs.Json.Record

/-!
# Proofs/Json/Results — what the reading of a value comes to, part by part

Other than `GivesBack`, which is about values that are written, `Reads` says what comes of any value
for a reader: what it finds or why it refuses it.  The result for a list is that of its items in
turn, up to the first refusal (`reads_listOf`), and the same holds of records that have all their
fields (`Entry.reads_record`).
-/

namespace ScopeGen.Json

open Draft Source

variable {α β ρ : Type} {n : Nat}

/-- The reader comes to this result for `j`, whichever depth up to `n` is read, as long as `j` is
nested no deeper. -/
def Reads (n : Nat) (read : Draft → Except Refusal α) (j : Json) (result : Except Refusal α) :
    Prop :=
  ∀ m ≤ n, j.depth ≤ m → read ((ofJson j).prune m) = result

section

variable {read : Draft → Except Refusal α} {j : Json} {result : Except Refusal α}

theorem Reads.mono {m : Nat} (h : Reads n read j result) (hm : m ≤ n) : Reads m read j result :=
  fun p hp => h p (Nat.le_trans hp hm)

/-- What is made of a value is refused as the value is. -/
theorem Reads.map (h : Reads n read j result) (f : α → β) :
    Reads n (fun d => f <$> read d) j (f <$> result) := fun m hm hdepth => by
  rw [← h m hm hdepth]

/-- What is written is found. -/
theorem GivesBack.reads {outline : Outline} {a : α} (h : GivesBack n read outline a) :
    Reads n read outline.json (.ok a) := fun m hm hdepth =>
  (h m hm _ _ (spelling_json outline)).trans (outcome_eq_ok_iff.2 hdepth)

/-- A scope is found unless its name is at fault. -/
theorem reads_scope (text : String) :
    Reads n Source.scope (.str text) ((Scope.ofString text).mapError .scope) := fun m _ _ => by
  have htext : Source.text (Draft.str (some text)) = .ok text := rfl
  rw [ofJson, prune_str]
  simp only [Source.scope, htext, bind, Except.bind]
  cases Scope.ofString text <;> rfl

/-- Nothing but the outside of an object is seen when no levels are read. -/
theorem reads_zero (entries : List (String × Json)) : Reads 0 read (.obj entries) result :=
  fun _ hm hdepth => absurd (Nat.le_trans hdepth hm) (Nat.not_succ_le_zero _)

/-- The result for an alternative is that for its content. -/
theorem Reads.filled {cases : List (String × Case Draft (Except Refusal) α)}
    {name sort : String} (h : Reads n read j result)
    (hlookup : cases.lookup name = some (.filled sort read)) :
    Reads (n + 1) (oneOf cases) (.obj [(name, j)]) result := by
  rintro (_ | m) hm hdepth
  · exact absurd hdepth (Nat.not_succ_le_zero _)
  · have hcontent : j.depth ≤ m :=
      Nat.le_trans (Nat.le_max_left _ _) (Nat.le_of_succ_le_succ hdepth)
    rw [ofJson, ofEntries, ofEntries, prune, List.map_cons, List.map_nil, oneOf_filled hlookup]
    exact h m (Nat.le_of_succ_le_succ hm) hcontent

/-! ## Lists -/

/-- Items come to the results of their own, in turn. -/
theorem mapM_prune_ofJsons {m : Nat} (hm : m ≤ n) {items : List Json}
    {results : List (Except Refusal α)} (h : List.Forall₂ (Reads n read) items results)
    (hdepth : itemDepth items ≤ m) :
    ((ofJsons items).map (prune m)).mapM read = results.mapM id := by
  induction h with
  | nil => rfl
  | cons hitem _ ih =>
    obtain ⟨hhead, htail⟩ := Nat.max_le.1 hdepth
    rw [ofJsons, List.map_cons, List.mapM_cons, List.mapM_cons, hitem m hm hhead, ih htail]
    rfl

/-- **Items are read in turn.** -/
theorem reads_listOf {items : List Json} {results : List (Except Refusal α)}
    (h : List.Forall₂ (Reads n read) items results) :
    Reads n (listOf read) (.arr items) (results.mapM id) := by
  rintro (_ | m) hm hdepth
  · exact absurd hdepth (Nat.not_succ_le_zero _)
  · exact mapM_prune_ofJsons (Nat.le_of_succ_le hm) h (Nat.le_of_succ_le_succ hdepth)

/-- Items that are all found make a list that is. -/
theorem mapM_id_ok (as : List α) : (as.map (Except.ok (ε := Refusal))).mapM id = .ok as := by
  induction as with
  | nil => rfl
  | cons a as ih => rw [List.map_cons, List.mapM_cons, ih]; rfl

/-- One item between items that are found decides. -/
theorem mapM_id_middle (before after : List α) (result : Except Refusal α) :
    (before.map Except.ok ++ result :: after.map Except.ok).mapM id =
      (fun a => before ++ a :: after) <$> result := by
  induction before with
  | nil =>
    rw [List.map_nil, List.nil_append, List.mapM_cons, mapM_id_ok]
    cases result <;> rfl
  | cons first before ih =>
    rw [List.map_cons, List.cons_append, List.mapM_cons, ih]
    cases result <;> rfl

theorem forall₂_reads {write : α → Json} (h : ∀ a, Reads n read (write a) (.ok a)) (as : List α) :
    List.Forall₂ (Reads n read) (as.map write) (as.map .ok) := by
  rw [List.forall₂_map_left_iff, List.forall₂_map_right_iff]
  exact List.forall₂_same.2 fun a _ => h a

/-- A list with one item in question. -/
theorem Reads.listOf {write : α → Json} (h : Reads n read j result)
    (hwrite : ∀ a, Reads n read (write a) (.ok a)) (before after : List α) :
    Reads n (listOf read) (.arr (before.map write ++ j :: after.map write))
      ((fun a => before ++ a :: after) <$> result) := by
  rw [← mapM_id_middle]
  exact reads_listOf (List.rel_append (forall₂_reads hwrite before)
    (.cons h (forall₂_reads hwrite after)))

end

/-! ## Records -/

/-- A field of a record with what is written for it and what comes of that. -/
structure Entry (n : Nat) (ρ : Type) where
  field : DraftField ρ
  json : Json
  result : Except Refusal (ρ → ρ)
  reads : Reads n field.read json result

namespace Entry

/-- A field that sets what is read. -/
def of (name : String) (absence : Absence) {read : Draft → Except Refusal α} {j : Json}
    {result : Except Refusal α} (h : Reads n read j result) (set : α → ρ → ρ) : Entry n ρ where
  field := ⟨name, absence, fun d => set <$> read d⟩
  json := j
  result := set <$> result
  reads := h.map set

@[simp] theorem name_of (name : String) (absence : Absence) {read : Draft → Except Refusal α}
    {j : Json} {result : Except Refusal α} (h : Reads n read j result) (set : α → ρ → ρ) :
    (of name absence h set).field.name = name := rfl

/-- The fields are set in turn. -/
def results (entries : List (Entry n ρ)) (r : ρ) : Except Refusal ρ :=
  entries.foldlM (fun r entry => (· r) <$> entry.result) r

/-- The entries of an object. -/
def written (entries : List (Entry n ρ)) : List (String × Json) :=
  entries.map fun entry => (entry.field.name, entry.json)

/-- **Named fields are read in turn**, when all that are not read yet stand there. -/
theorem readNamed_written {m : Nat} (hm : m ≤ n) {fields : List (DraftField ρ)}
    (hnames : (fields.map (·.name)).Nodup) :
    ∀ {left : List (Entry n ρ)} {gone : List (DraftField ρ)} {r : ρ},
      (gone ++ left.map field).Perm fields → entryDepth (written left) ≤ m →
        readNamed fields (gone.map (·.name)) r
            ((ofEntries (written left)).map fun (key, d) => (key, prune m d)) =
          results left r
  | [], gone, r, hperm, _ => by
      rw [List.map_nil, List.append_nil] at hperm
      have hnone : fields.find? (fun f => f.absence = .never ∧ f.name ∉ gone.map (·.name)) =
          none :=
        List.find?_eq_none.2 fun f hf => by
          have hgone := List.mem_map_of_mem (f := Field.name) (hperm.mem_iff.2 hf)
          simp [hgone]
      rw [written, List.map_nil, ofEntries, List.map_nil, readNamed, hnone]
      rfl
  | entry :: left, gone, r, hperm, hdepth => by
      obtain ⟨hhead, htail⟩ := Nat.max_le.1 hdepth
      have hperm' : (entry.field :: gone ++ left.map field).Perm fields :=
        List.perm_middle.symm.trans hperm
      have hnodup := (hperm'.map (·.name)).nodup_iff.2 hnames
      rw [List.cons_append, List.map_cons, List.nodup_cons, List.map_append] at hnodup
      have hseen : entry.field.name ∉ gone.map (·.name) := fun hgone =>
        hnodup.1 (List.mem_append_left _ hgone)
      have hfind : fields.find? (·.name = entry.field.name) = some entry.field :=
        Part.find?_name_of_nodup hnames (hperm'.mem_iff.1 List.mem_cons_self)
      rw [written, List.map_cons, ofEntries, List.map_cons, readNamed, hfind]
      simp only [if_neg hseen]
      rw [entry.reads m hm hhead, results, List.foldlM_cons]
      cases entry.result with
      | error refusal => rfl
      | ok set => exact readNamed_written hm hnames hperm' htail

/-- **Fields are read in turn**, as long as each stands there. -/
theorem reads_record {sort : String} (entries : List (Entry n ρ))
    (hnames : (entries.map (·.field.name)).Nodup) {blank : ρ} {result : Except Refusal ρ}
    (hresult : results entries blank = result) :
    Reads n (record sort (entries.map field) blank) (.obj (written entries)) result := by
  subst hresult
  rintro (_ | m) hm hdepth
  · exact absurd hdepth (Nat.not_succ_le_zero _)
  · have hfields : ((entries.map field).map (·.name)).Nodup := by rwa [List.map_map]
    have hperm : ([] ++ entries.map field).Perm (entries.map field) := .refl _
    exact readNamed_written (Nat.le_of_succ_le hm) hfields hperm (Nat.le_of_succ_le_succ hdepth)

end Entry

end ScopeGen.Json
