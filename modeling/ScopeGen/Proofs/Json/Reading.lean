import Mathlib.Logic.Basic
import ScopeGen.Json.Source
import ScopeGen.Proofs.Json.Spelling

/-!
# Proofs/Json/Reading — readers that give back what is spelled

A reader **gives back** `a` from an outline (`GivesBack`) when it finds `a` in as much of each
spelling as is read, and refuses what is nested deeper.  Lists and alternatives are
read part by part, so such readers are built from such readers.
-/

namespace ScopeGen.Json

open Draft Source

variable {α β ρ : Type} {n : Nat}

/-! ## The outcome of a reading -/

/-- The outcome of reading a value that is nested so deep, where at most `n` levels are read. -/
def outcome (n depth : Nat) (a : α) : Except Refusal α :=
  if depth ≤ n then .ok a else .error .tooDeep

/-- What is not nested is read with no levels left. -/
@[simp] theorem outcome_zero (a : α) : outcome n 0 a = .ok a := if_pos n.zero_le

/-- What is nested is not. -/
@[simp] theorem outcome_zero_succ (depth : Nat) (a : α) :
    outcome 0 (depth + 1) a = .error .tooDeep := rfl

/-- Each level of the value takes one of those that are read. -/
@[simp] theorem outcome_succ_succ (depth : Nat) (a : α) :
    outcome (n + 1) (depth + 1) a = outcome n depth a :=
  if_congr Nat.succ_le_succ_iff rfl rfl

/-- A value is found just when it is nested no deeper than is read. -/
theorem outcome_eq_ok_iff {depth : Nat} {a : α} : outcome n depth a = .ok a ↔ depth ≤ n := by
  unfold outcome
  split <;> simp_all

/-- What is made of a value is found just when the value is. -/
theorem map_outcome (f : α → β) (depth : Nat) (a : α) :
    f <$> outcome n depth a = outcome n depth (f a) := by
  unfold outcome
  split <;> rfl

/-- What is read in two parts is nested as deep as the deeper one. -/
theorem outcome_bind (depth depth' : Nat) (a : α) (f : α → Except Refusal β) {b : β}
    (h : f a = outcome n depth' b) :
    (outcome n depth a >>= f) = outcome n (max depth depth') b := by
  by_cases hdepth : depth ≤ n
  · rw [outcome, if_pos hdepth]
    refine h.trans (if_congr ?_ rfl rfl)
    rw [Nat.max_le, and_iff_right hdepth]
  · rw [outcome, if_neg hdepth, outcome, if_neg fun hmax => hdepth (Nat.max_le.1 hmax).1]
    rfl

/-- The reader finds `a` in each spelling that is nested no deeper than is read, and refuses the
others, whichever depth up to `n` is read. -/
def GivesBack (n : Nat) (read : Draft → Except Refusal α) (outline : Outline) (a : α) : Prop :=
  ∀ m ≤ n, ∀ (d : Draft) (k : Nat), Spelling outline d k → read (d.prune m) = outcome m k a

/-- A bound on the depth may be lowered. -/
theorem GivesBack.mono {read : Draft → Except Refusal α} {outline : Outline} {a : α} {m : Nat}
    (h : GivesBack n read outline a) (hm : m ≤ n) : GivesBack m read outline a :=
  fun p hp => h p (Nat.le_trans hp hm)

theorem GivesBack.map {read : Draft → Except Refusal α} {outline : Outline} {a : α}
    (h : GivesBack n read outline a) (f : α → β) :
    GivesBack n (fun d => f <$> read d) outline (f a) := by
  intro m hm d k hd
  have hread : f <$> read (d.prune m) = f <$> outcome m k a := by rw [h m hm d k hd]
  exact hread.trans (map_outcome f k a)

/-! ## Plain values -/

/-- A text is found at every depth. -/
theorem givesBack_text (text : String) : GivesBack n Source.text (.str text) text := by
  rintro m - _ _ ⟨⟩
  rw [ofJson, prune_str]
  exact (outcome_zero text).symm

/-- The reader asks whether the number has 64 bits, and that of an `Int64` has. -/
theorem givesBack_int (i : Int64) : GivesBack n Source.int (.only (.int i.toInt)) i := by
  rintro m - _ _ ⟨⟩
  have hread : Source.int (Draft.int i.toInt) =
      (int64? i.toInt).elim (.error (overflow i.toInt)) .ok := rfl
  rw [ofJson, prune_int, hread, int64?_toInt]
  exact (outcome_zero i).symm

theorem givesBack_flag (b : Bool) : GivesBack n Source.flag (.only (.bool b)) b := by
  rintro m - _ _ ⟨⟩
  rw [ofJson, prune_bool]
  exact (outcome_zero b).symm

/-- The text that names a scope passes the check of names, as that scope. -/
theorem givesBack_scope (scope : Scope) :
    GivesBack n Source.scope (.str scope.name) scope := by
  rintro m - _ _ ⟨⟩
  have htext : Source.text (Draft.str (some scope.name)) = .ok scope.name := rfl
  have hread : Source.scope (Draft.str (some scope.name)) = .ok scope := by
    simp only [Source.scope, htext, bind, Except.bind, Scope.ofString_name]
    rfl
  rw [ofJson, prune_str, hread]
  exact (outcome_zero scope).symm

/-- A text that may be missing is `null` when it is. -/
theorem givesBack_optionText (text : Option String) :
    GivesBack n (optionOf Source.text) (.only (text.elim .null .str)) text := by
  rintro m - _ _ ⟨⟩
  cases text with
  | none => rw [Option.elim, ofJson, prune_null]; exact (outcome_zero none).symm
  | some text => rw [Option.elim, ofJson, prune_str]; exact (outcome_zero (some text)).symm

/-! ## Lists -/

/-- Items are read in turn, each to the same depth. -/
theorem mapM_of_itemSpellings {read : Draft → Except Refusal α} {outline : α → Outline} {m : Nat}
    (hm : m ≤ n) : ∀ {as : List α} {items : List Draft} {k : Nat},
      (∀ a ∈ as, GivesBack n read (outline a) a) → ItemSpellings (as.map outline) items k →
        (items.map (prune m)).mapM read = outcome m k as
  | [], _, _, _, .nil => (outcome_zero []).symm
  | a :: as, _, _, h, .cons hd hitems => by
      have hrest := mapM_of_itemSpellings hm (fun b hb => h b (List.mem_cons_of_mem a hb)) hitems
      rw [List.map_cons, List.mapM_cons, h a List.mem_cons_self m hm _ _ hd]
      refine outcome_bind _ _ _ _ ?_
      rw [hrest, bind_pure_comp, map_outcome]

/-- **A list is read back when its items are**, and the array is one level around them. -/
theorem givesBack_listOf {read : Draft → Except Refusal α} {outline : α → Outline} {as : List α}
    (h : ∀ a ∈ as, GivesBack n read (outline a) a) :
    GivesBack n (listOf read) (.items (as.map outline)) as := by
  rintro m hm _ _ (_ | @⟨_, items, k, hitems⟩)
  cases m with
  | zero => rfl
  | succ m =>
    rw [outcome_succ_succ, ← mapM_of_itemSpellings (Nat.le_of_succ_le hm) h hitems]
    rfl

theorem givesBack_strs (texts : List String) :
    GivesBack n (listOf Source.text) (.strs texts) texts :=
  givesBack_listOf fun text _ => givesBack_text text

/-! ## Alternatives -/

/-- A text is the bare name of an alternative. -/
theorem choice_str (name : String) : choice (Draft.str (some name)) = .ok (.bare name) := rfl

/-- An object names an alternative by its first key, and its content is all there is when no other
key follows. -/
theorem choice_obj (name : String) (content : Draft) (rest : List (Option String × Draft)) :
    choice (Draft.obj ((some name, content) :: rest)) =
      .ok (.filled name content rest.isEmpty) := rfl

/-- An alternative that is all there is is read as its content. -/
theorem oneOf_filled {cases : List (String × Case Draft (Except Refusal) α)} {name sort : String}
    {read : Draft → Except Refusal α} (hlookup : cases.lookup name = some (.filled sort read))
    (content : Draft) : oneOf cases (Draft.obj [(some name, content)]) = read content := by
  simp only [oneOf, choice_obj, List.isEmpty_nil, bind, Except.bind, hlookup, if_true]
  cases read content <;> rfl

/-- **A bare alternative is read back** from its name and from an object with `null` under it. -/
theorem givesBack_bare {cases : List (String × Case Draft (Except Refusal) α)} {name : String}
    {a : α} (h : cases.lookup name = some (.bare a)) :
    GivesBack n (oneOf cases) (.bare name) a := by
  intro m _ d k hd
  cases hd with
  | bare =>
    rw [prune_str]
    simp only [oneOf, choice_str, bind, Except.bind, h]
    exact (outcome_zero a).symm
  | emptied =>
    cases m with
    | zero => rfl
    | succ m =>
      have hprune : prune (m + 1) (.obj [(some name, .null)]) = .obj [(some name, .null)] := by
        simp [prune]
      have hunit : Source.unit Draft.null = .ok () := rfl
      rw [hprune, outcome_succ_succ, outcome_zero]
      simp only [oneOf, choice_obj, List.isEmpty_nil, bind, Except.bind, h, hunit, if_true]
      rfl

/-- **An alternative with content is read back when its content is**, one level further inside. -/
theorem givesBack_filled {cases : List (String × Case Draft (Except Refusal) α)}
    {name sort : String}
    {read : Draft → Except Refusal α} {outline : Outline} {a : α}
    (hlookup : cases.lookup name = some (.filled sort read)) (h : GivesBack n read outline a) :
    GivesBack (n + 1) (oneOf cases) (.filled name outline) a := by
  rintro m hm _ _ (_ | _ | _ | _ | @⟨_, _, d, k, hd⟩)
  cases m with
  | zero => rfl
  | succ m =>
    rw [prune, List.map_cons, List.map_nil, outcome_succ_succ, oneOf_filled hlookup]
    exact h m (Nat.le_of_succ_le_succ hm) d k hd

end ScopeGen.Json
