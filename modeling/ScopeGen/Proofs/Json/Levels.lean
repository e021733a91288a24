import ScopeGen.Proofs.Json.Outlines

/-!
# Proofs/Json/Levels — no spelling is nested deeper than what is written

A spelling can leave levels out, with a list that it does not mention.  It can add one in one place
only: a bare alternative as an object.  In the model each record with such a field has a list or an
object beside it, so it is **tight**: no spelling of it is deeper than what is written.  Only an
alternative alone is not (`Json.Outline.Loose`).
-/

namespace ScopeGen

namespace Json.Outline

/-- No spelling is nested deeper than so many arrays and objects. -/
def Within (n : Nat) (outline : Outline) : Prop :=
  ∀ (d : Draft) (k : Nat), Spelling outline d k → k ≤ n

/-- No spelling is nested deeper than what is written. -/
def Tight (outline : Outline) : Prop := outline.Within outline.json.depth

/-- No spelling is nested deeper than what is written, but for one level around a bare name. -/
def Loose (outline : Outline) : Prop := outline.Within (max 1 outline.json.depth)

variable {n : Nat}

/-- A greater bound holds as well. -/
theorem Within.mono {m : Nat} {outline : Outline} (h : outline.Within m) (hmn : m ≤ n) :
    outline.Within n :=
  fun d k hd => Nat.le_trans (h d k hd) hmn

/-- One level around a bare name is allowed, not required. -/
theorem Tight.loose {outline : Outline} (h : outline.Tight) : outline.Loose :=
  h.mono (Nat.le_max_right _ _)

/-- A value with one spelling is as deep as that is. -/
theorem tight_only (j : Json) : (Outline.only j).Tight := by
  rintro _ _ ⟨⟩
  exact Nat.le_refl _

/-- **A bare name may take one level**, as the key of an object. -/
theorem loose_bare (name : String) : (Outline.bare name).Loose := by
  intro d k hd
  cases hd with
  | bare => exact Nat.zero_le _
  | emptied => exact Nat.le_max_left 1 _

/-- The object around the content of an alternative is there in every spelling. -/
theorem Tight.filled {content : Outline} (h : content.Tight) (name : String) :
    (Outline.filled name content).Tight := by
  rintro _ _ (_ | _ | _ | _ | @⟨_, _, d, k, hd⟩)
  exact Nat.succ_le_succ (Nat.le_trans (h d k hd) (Nat.le_max_left _ _))

/-! ## Lists -/

/-- The deepest item of a spelling is no deeper than the deepest that is written. -/
theorem le_of_itemSpellings : ∀ {outlines : List Outline} {items : List Draft} {k : Nat},
    (∀ outline ∈ outlines, outline.Tight) → ItemSpellings outlines items k →
      k ≤ itemDepth (jsons outlines)
  | [], _, _, _, .nil => Nat.le_refl _
  | outline :: _, _, _, h, .cons hd hitems =>
    have hhead := h outline List.mem_cons_self _ _ hd
    have htail := le_of_itemSpellings (fun o ho => h o (List.mem_cons_of_mem _ ho)) hitems
    Nat.max_le.2 ⟨Nat.le_trans hhead (Nat.le_max_left _ _),
      Nat.le_trans htail (Nat.le_max_right _ _)⟩

/-- The array around the items is there in every spelling. -/
theorem tight_items {outlines : List Outline} (h : ∀ outline ∈ outlines, outline.Tight) :
    (Outline.items outlines).Tight := by
  rintro _ _ (_ | @⟨_, _, _, hitems⟩)
  exact Nat.succ_le_succ (le_of_itemSpellings h hitems)

theorem tight_map {α : Type} {outline : α → Outline} {as : List α}
    (h : ∀ a ∈ as, (outline a).Tight) : (Outline.items (as.map outline)).Tight :=
  tight_items (List.forall_mem_map.2 h)

theorem tight_strs (texts : List String) : (strs texts).Tight :=
  tight_map fun _ _ => tight_only _

/-! ## Records -/

/-- In whatever order the fields come, none is nested deeper than its slot allows, and what is
passed over between them does not count. -/
theorem le_of_entrySpellings : ∀ {entries : List (Option String × Draft)} {names : List String}
    {slots : List Slot} {k : Nat}, (∀ slot ∈ slots, slot.content.Within n) →
      EntrySpellings names slots entries k → k ≤ n
  | [], _, _, _, _, .nil _ => n.zero_le
  | _ :: _, _, _, _, h, .field hd hentries =>
    have hslots := List.forall_mem_cons.1 fun slot hslot =>
      h slot (List.perm_middle.mem_iff.2 hslot)
    Nat.max_le.2 ⟨hslots.1 _ _ hd, le_of_entrySpellings hslots.2 hentries⟩
  | _ :: _, _, _, _, h, .other _ _ hentries => le_of_entrySpellings h hentries

/-- The same for fields without their names. -/
theorem le_of_fieldSpellings : ∀ {slots : List Slot} {items : List Draft} {k : Nat},
    (∀ slot ∈ slots, slot.content.Within n) → FieldSpellings slots items k → k ≤ n
  | _, [], _, _, .nil _ => n.zero_le
  | _ :: _, _ :: _, _, h, .cons hd hitems =>
    have hslots := List.forall_mem_cons.1 h
    Nat.max_le.2 ⟨hslots.1 _ _ hd, le_of_fieldSpellings hslots.2 hitems⟩

/-- A record takes one level, with the names of its fields or without. -/
theorem within_record {slots : List Slot} (h : ∀ slot ∈ slots, slot.content.Within n) :
    (Outline.record slots).Within (n + 1) := by
  intro d k hd
  cases hd with
  | named hentries => exact Nat.succ_le_succ (le_of_entrySpellings h hentries)
  | positional hitems => exact Nat.succ_le_succ (le_of_fieldSpellings h hitems)

/-- No field is deeper than the deepest one. -/
theorem depth_le_entryDepth {slots : List Slot} {slot : Slot} (h : slot ∈ slots) :
    slot.content.json.depth ≤ entryDepth (Slot.entries slots) := by
  induction slots with
  | nil => exact absurd h List.not_mem_nil
  | cons other slots ih =>
    cases other
    rw [Slot.entries, entryDepth]
    obtain rfl | h := List.mem_cons.1 h
    · exact Nat.le_max_left _ _
    · exact Nat.le_trans (ih h) (Nat.le_max_right _ _)

/-- **A record is tight when its fields are.** -/
theorem tight_record {slots : List Slot} (h : ∀ slot ∈ slots, slot.content.Tight) :
    (Outline.record slots).Tight :=
  within_record fun slot hslot => (h slot hslot).mono (depth_le_entryDepth hslot)

/-- One array or object in a record makes up for the level around a bare name. -/
theorem tight_record_of_deep {slots : List Slot} {deep : Slot} (hdeep : deep ∈ slots)
    (hdepth : 1 ≤ deep.content.json.depth) (h : ∀ slot ∈ slots, slot.content.Loose) :
    (Outline.record slots).Tight :=
  within_record fun slot hslot => (h slot hslot).mono <|
    Nat.max_le.2 ⟨Nat.le_trans hdepth (depth_le_entryDepth hdeep), depth_le_entryDepth hslot⟩

end Json.Outline

open Json

/-! ## The types -/

/-- `Other` is a bare name, so a marker on its own is not tight. -/
theorem Marker.loose_outline (marker : Marker) : marker.outline.Loose := by
  cases marker with
  | member scope => exact ((Outline.tight_only _).filled _).loose
  | initializer scope => exact ((Outline.tight_only _).filled _).loose
  | other => exact Outline.loose_bare _

mutual

/-- **No spelling of a value is nested deeper than what is written for it.** -/
theorem Value.tight_outline : ∀ v : Value, v.outline.Tight
  | .string _ | .integer _ | .bool _ | .type _ | .enum _ => by
      rw [Value.outline]
      exact (Outline.tight_only _).filled _
  | .annot nested => by
      rw [Value.outline]
      exact (Annot.tight_outline nested).filled _
  | .list items => by
      rw [Value.outline]
      exact (Outline.tight_items (Value.tight_outlines items)).filled _

/-- The marker may be spelled one level deeper, but the list of members is as deep as that. -/
theorem Annot.tight_outline : ∀ a : Annot, a.outline.Tight
  | ⟨name, members, marker⟩ => by
      have hmembers := Outline.tight_items (Member.tight_outlines members)
      rw [Annot.outline]
      refine Outline.tight_record_of_deep (List.mem_cons_of_mem _ List.mem_cons_self)
        (Nat.le_add_left 1 _) ?_
      simp only [List.forall_mem_cons]
      exact ⟨(Outline.tight_only _).loose, hmembers.loose, marker.loose_outline, nofun⟩

theorem Member.tight_outline : ∀ member : Member, member.outline.Tight
  | ⟨name, value⟩ => by
      rw [Member.outline]
      refine Outline.tight_record ?_
      simp only [List.forall_mem_cons]
      exact ⟨Outline.tight_only _, Value.tight_outline value, nofun⟩

/-- The recursion takes the items of a list one by one, and each is tight. -/
theorem Value.tight_outlines : ∀ values : List Value,
    ∀ outline ∈ Value.outlines values, outline.Tight
  | [] => by
      rw [Value.outlines]
      exact nofun
  | value :: rest => by
      rw [Value.outlines]
      exact List.forall_mem_cons.2 ⟨Value.tight_outline value, Value.tight_outlines rest⟩

theorem Member.tight_outlines : ∀ members : List Member,
    ∀ outline ∈ Member.outlines members, outline.Tight
  | [] => by
      rw [Member.outlines]
      exact nofun
  | member :: rest => by
      rw [Member.outlines]
      exact List.forall_mem_cons.2 ⟨Member.tight_outline member, Member.tight_outlines rest⟩

end

/-- Outside values, annotations come in lists. -/
theorem Annot.tight_listOf (annotations : List Annot) :
    (Outline.items (annotations.map Annot.outline)).Tight :=
  Outline.tight_map fun a _ => a.tight_outline

theorem Parameter.tight_outline (p : Parameter) : p.outline.Tight := by
  refine Outline.tight_record ?_
  simp only [List.forall_mem_cons]
  exact ⟨Outline.tight_only _, Outline.tight_only _, nofun⟩

/-- A signature has lists in it, and no bare name. -/
theorem Signature.tight_outline (s : Signature) : s.outline.Tight := by
  refine Outline.tight_record ?_
  simp only [List.forall_mem_cons]
  exact ⟨Outline.tight_only _, Outline.tight_map fun p _ => p.tight_outline, Outline.tight_only _,
    Outline.tight_strs _, nofun⟩

theorem Method.tight_outline (m : Method) : m.outline.Tight := by
  refine Outline.tight_record ?_
  simp only [List.forall_mem_cons]
  exact ⟨m.signature.tight_outline, Annot.tight_listOf _, nofun⟩

theorem ClassDecl.tight_outline (cls : ClassDecl) : cls.outline.Tight := by
  refine Outline.tight_record ?_
  simp only [List.forall_mem_cons]
  exact ⟨Outline.tight_only _, Outline.tight_map fun m _ => m.tight_outline, Annot.tight_listOf _,
    nofun⟩

/-- Every role is a bare name. -/
theorem Role.loose_outline (role : Role) : role.outline.Loose := by
  cases role <;> exact Outline.loose_bare _

/-- A call has content, so its name is never bare. -/
theorem Call.tight_outline (call : Call) : call.outline.Tight := by
  have hmethod (method : String) :
      (Outline.record [.required "method" (.str method)]).Tight :=
    Outline.tight_record (List.forall_mem_singleton.2 (Outline.tight_only _))
  cases call <;> exact (hmethod _).filled _

/-- The signature is as deep as the role can be spelled. -/
theorem Override.tight_outline (o : Override) : o.outline.Tight := by
  refine Outline.tight_record_of_deep List.mem_cons_self (Nat.le_add_left 1 _) ?_
  simp only [List.forall_mem_cons]
  exact ⟨o.signature.tight_outline.loose, o.role.loose_outline,
    (Outline.tight_map fun call _ => call.tight_outline).loose, nofun⟩

theorem Subclass.tight_outline (sub : Subclass) : sub.outline.Tight := by
  refine Outline.tight_record ?_
  simp only [List.forall_mem_cons]
  exact ⟨Outline.tight_only _, Outline.tight_only _, Outline.tight_only _, Outline.tight_only _,
    Outline.tight_strs _, Annot.tight_listOf _, Outline.tight_map fun o _ => o.tight_outline, nofun⟩

end ScopeGen
