import ScopeGen.Proofs.Json.Outlines
import ScopeGen.Proofs.Json.Record
import ScopeGen.Source.Model

/-!
# Proofs/Json/Types — each type of the model is read back

Values hold annotations, whose members hold values.  A reader of values with `k` levels gives back
every value to the depth `k` (`Value.givesBack_readLevels`, by induction on `k`): each level of the
reader goes through at least one object of the text.  All other types are put together from that.
-/

namespace ScopeGen

open Json Source

variable {n : Nat}

/-! ## Annotations -/

/-- Inside a marker is a text, which is seen however little is read. -/
theorem Marker.givesBack (marker : Marker) : GivesBack n Marker.read marker.outline marker := by
  cases marker with
  | member scope => exact (givesBack_filled rfl ((givesBack_scope scope).map _)).mono n.le_succ
  | initializer scope => exact (givesBack_filled rfl ((givesBack_scope scope).map _)).mono n.le_succ
  | other => exact givesBack_bare rfl

section Nested

variable {value : Draft → Except Refusal Value}

/-- A member is read back to the depth to which its value is. -/
theorem Member.givesBack_readWith (h : ∀ v : Value, GivesBack n value v.outline v)
    (member : Member) : GivesBack n (Member.readWith value) member.outline member := by
  obtain ⟨name, v⟩ := member
  rw [Member.outline]
  exact Part.givesBack_record
    [.required "name" (givesBack_text name) _, .required "value" (h v) _]
    (by simp) (by simp [Part.Independent])

/-- An annotation is read back to the depth to which the values of its members are; when it is
spelled without members or `kind`, the blank record has what it holds. -/
theorem Annot.givesBack_readWith (h : ∀ v : Value, GivesBack n value v.outline v) (a : Annot) :
    GivesBack n (Annot.readWith value) a.outline a := by
  obtain ⟨name, members, marker⟩ := a
  have hmembers : GivesBack n (listOf (Member.readWith value))
      (.items (members.map Member.outline)) members :=
    givesBack_listOf fun member _ => Member.givesBack_readWith h member
  rw [Annot.outline, Member.outlines_eq_map]
  exact Part.givesBack_record
    [.required "name" (givesBack_text name) _,
      .optional "members" .always hmembers _ _ (by simp_all),
      .optional "kind" .always marker.givesBack _ _ (by simp_all)]
    (by simp) (by simp [Part.Independent])

end Nested

/-- **A reader with `k` levels gives back every value to the depth `k`.** -/
theorem Value.givesBack_readLevels : ∀ (k : Nat) (v : Value),
    GivesBack k (Value.readLevels k) v.outline v
  -- without levels the reader refuses everything, and without depth every value is refused
  | 0, v => by
      rintro m hm d depth hd
      obtain rfl := Nat.le_zero.1 hm
      cases v <;> cases hd <;> rfl
  | k + 1, v => by
      have ih := Value.givesBack_readLevels k
      cases v with
      | string text => exact givesBack_filled rfl ((givesBack_text text).map _)
      | integer i => exact givesBack_filled rfl ((givesBack_int i).map _)
      | bool b => exact givesBack_filled rfl ((givesBack_flag b).map _)
      | type name => exact givesBack_filled rfl ((givesBack_text name).map _)
      | enum name => exact givesBack_filled rfl ((givesBack_text name).map _)
      | annot nested => exact givesBack_filled rfl ((Annot.givesBack_readWith ih nested).map _)
      | list items =>
        have hitems := givesBack_listOf fun v (_ : v ∈ items) => ih v
        rw [Value.outline, Value.outlines_eq_map]
        exact givesBack_filled rfl (hitems.map _)

/-- More levels than any text has are read. -/
theorem Value.givesBack (v : Value) : GivesBack Draft.nestingLimit Value.read v.outline v :=
  (Value.givesBack_readLevels _ v).mono (Nat.le_succ _)

/-- As readers of values, readers of members and annotations have more levels than any text. -/
theorem Member.givesBack (member : Member) :
    GivesBack Draft.nestingLimit Member.read member.outline member :=
  Member.givesBack_readWith Value.givesBack member

theorem Annot.givesBack (a : Annot) : GivesBack Draft.nestingLimit Annot.read a.outline a :=
  Annot.givesBack_readWith Value.givesBack a

theorem Annot.givesBack_listOf (annotations : List Annot) :
    GivesBack Draft.nestingLimit (listOf Annot.read) (.items (annotations.map Annot.outline))
      annotations :=
  Json.givesBack_listOf fun a _ => a.givesBack

/-! ## Classes -/

/-- A parameter has two texts in it, so it is read back to every depth. -/
theorem Parameter.givesBack (p : Parameter) : GivesBack n Parameter.read p.outline p :=
  Part.givesBack_record
    [.required "name" (givesBack_text p.name) _, .required "ty" (givesBack_text p.type) _]
    (by simp) (by simp [Part.Independent])

/-- What a signature leaves out, the blank one has: no parameters, `void` and no modifiers. -/
theorem Signature.givesBack (s : Signature) : GivesBack n Signature.read s.outline s :=
  Part.givesBack_record
    [.required "name" (givesBack_text s.name) _,
      .optional "parameters" .always (givesBack_listOf fun p _ => p.givesBack) _ _ (by simp_all),
      .optional "return_type" .always (givesBack_text s.returnType) _ _ (by simp_all),
      .optional "modifiers" .always (givesBack_strs s.modifiers) _ _ (by simp_all)]
    (by simp) (by simp [Part.Independent])

/-- From here on there are annotations inside, and with them values. -/
theorem Method.givesBack (m : Method) : GivesBack Draft.nestingLimit Method.read m.outline m :=
  Part.givesBack_record
    [.required "signature" m.signature.givesBack _,
      .optional "annotations" .always (Annot.givesBack_listOf m.annotations) _ _ (by simp_all)]
    (by simp) (by simp [Part.Independent])

/-- **A class is read back from each of its spellings**, to the depth that is read. -/
theorem ClassDecl.givesBack (cls : ClassDecl) :
    GivesBack Draft.nestingLimit ClassDecl.read cls.outline cls :=
  Part.givesBack_record
    [.required "name" (givesBack_text cls.name) _,
      .optional "members" .always (givesBack_listOf fun m _ => m.givesBack) _ _ (by simp_all),
      .optional "scope_annotations" .always (Annot.givesBack_listOf cls.annotations) _ _
        (by simp_all)]
    (by simp) (by simp [Part.Independent])

/-! ## Generated classes -/

theorem Role.givesBack (role : Role) : GivesBack n Role.read role.outline role := by
  cases role <;> exact givesBack_bare rfl

/-- The name of a called method is all that a call holds. -/
theorem Call.givesBack_readContent (name method : String) :
    GivesBack n (Call.readContent name) (.record [.required "method" (.str method)]) method :=
  Part.givesBack_record [.required "method" (givesBack_text method) _]
    (by simp) (by simp [Part.Independent])

/-- The two calls differ in the name of the alternative only. -/
theorem Call.givesBack (call : Call) : GivesBack n Call.read call.outline call := by
  cases call with
  | super method =>
    exact (givesBack_filled rfl ((Call.givesBack_readContent _ method).map _)).mono n.le_succ
  | self method =>
    exact (givesBack_filled rfl ((Call.givesBack_readContent _ method).map _)).mono n.le_succ

/-- A generated method has no annotation in it, so it is read back to every depth. -/
theorem Override.givesBack (o : Override) : GivesBack n Override.read o.outline o :=
  Part.givesBack_record
    [.required "signature" o.signature.givesBack _,
      .required "role" o.role.givesBack _,
      .required "body" (givesBack_listOf fun call _ => call.givesBack) _]
    (by simp) (by simp [Part.Independent])

/-- **A generated class is read back from each of its spellings**, to the depth that is read. -/
theorem Subclass.givesBack (sub : Subclass) :
    GivesBack Draft.nestingLimit Subclass.read sub.outline sub :=
  Part.givesBack_record
    [.required "name" (givesBack_text sub.name) _,
      .required "package_name" (givesBack_text sub.package) _,
      .required "superclass_name" (givesBack_text sub.superclass) _,
      .optional "doc" .named (givesBack_optionText sub.doc) _ _ (by simp_all),
      .required "modifiers" (givesBack_strs sub.modifiers) _,
      .required "class_annotations" (Annot.givesBack_listOf sub.annotations) _,
      .required "methods" (givesBack_listOf fun o _ => o.givesBack) _]
    (by simp) (by simp [Part.Independent])

end ScopeGen
