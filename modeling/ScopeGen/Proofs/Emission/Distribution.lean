import Mathlib.Algebra.BigOperators.Group.List.Lemmas
import Mathlib.Algebra.GroupWithZero.Nat
import Mathlib.Algebra.Order.BigOperators.Group.List
import Mathlib.Algebra.Order.Group.Nat
import Mathlib.Data.List.ProdSigma
import ScopeGen.Proofs.Emission.Account
import ScopeGen.Proofs.Emission.Declared
import ScopeGen.Proofs.Marker.Canonical
import ScopeGen.Proofs.Scope.ClassName

/-!
# Proofs/Emission/Distribution — the markers of a class are shared out to its scopes

Each declared scope has one generated class, of a name of its own.  Over all of them a method is
forwarded once for each scope that it is marked for (`sum_length_methodsWithRole`).  An annotation
marks for one scope in a role (`Marker.eq_of_isMemberOf`, `Marker.eq_of_isInitializerOf`), so there
are no more forwards in a role than annotations (`countP_pairs_le`).
-/

namespace ScopeGen

/-! ## Counting pairs -/

section Pairs

variable {α β : Type}

theorem sum_map_ite_eq_countP (p : α → Bool) (as : List α) :
    (as.map fun a => if p a then 1 else 0).sum = as.countP p := by
  induction as with
  | nil => rfl
  | cons a as ih => rw [List.map_cons, List.sum_cons, ih, List.countP_cons, Nat.add_comm]

/-- Pairs are counted row by row. -/
theorem countP_product (p : α × β → Bool) (as : List α) (bs : List β) :
    (as ×ˢ bs).countP p = (as.map fun a => bs.countP fun b => p (a, b)).sum := by
  induction as with
  | nil => simp
  | cons a as ih =>
    rw [List.product_cons, List.countP_append, ih, List.countP_map, List.map_cons, List.sum_cons]
    rfl

/-- …or column by column. -/
theorem countP_product' (p : α × β → Bool) (as : List α) (bs : List β) :
    (as ×ˢ bs).countP p = (bs.map fun b => as.countP fun a => p (a, b)).sum := by
  induction as with
  | nil => simp
  | cons a as ih =>
    simp only [List.countP_cons, List.sum_map_add, ← ih, List.product_cons, List.countP_append,
      List.countP_map, sum_map_ite_eq_countP]
    exact Nat.add_comm _ _

/-- A test that no two elements pass is passed once by a list without repetitions, or never. -/
theorem countP_le_one {p : α → Bool} {as : List α} (hnodup : as.Nodup)
    (hunique : ∀ a b, p a → p b → a = b) : as.countP p ≤ 1 := by
  induction as with
  | nil => exact Nat.zero_le 1
  | cons a as ih =>
    obtain ⟨ha, hnodup⟩ := List.nodup_cons.mp hnodup
    cases hp : p a with
    | false => rw [List.countP_cons_of_neg (by simp [hp])]; exact ih hnodup
    | true =>
      have hrest : as.countP p = 0 := List.countP_eq_zero.mpr fun b hb hpb =>
        ha (hunique a b hp hpb ▸ hb)
      rw [List.countP_cons_of_pos hp, hrest]

theorem countP_or_le (p q : α → Bool) (as : List α) :
    (as.countP fun a => p a || q a) ≤ as.countP p + as.countP q := by
  induction as with
  | nil => simp
  | cons a as ih => cases hp : p a <;> cases hq : q a <;> simp [hp, hq] <;> omega

/-- When each element of a list is for one thing only, no more things have an element for them than
there are elements. -/
theorem countP_any_le {p : α → β → Bool} (hunique : ∀ a b b', p a b → p a b' → b = b')
    {bs : List β} (hnodup : bs.Nodup) (as : List α) :
    (bs.countP fun b => as.any (p · b)) ≤ as.length := by
  induction as with
  | nil => simp
  | cons a as ih =>
    have hsplit : (bs.countP fun b => (a :: as).any (p · b)) ≤
        bs.countP (p a) + bs.countP fun b => as.any (p · b) := by
      simpa only [List.any_cons] using countP_or_le (p a) (fun b => as.any (p · b)) bs
    have hone := countP_le_one hnodup (hunique a)
    rw [List.length_cons]
    omega

end Pairs

/-! ## The forwards of all generated classes -/

namespace ClassDecl

variable (cls : ClassDecl)

/-- **No more methods are marked for declared scopes than there are annotations**, counting a method
once for each scope, when an annotation marks for one scope only. -/
theorem countP_pairs_le {marks : Marker → Scope → Bool}
    (hunique : ∀ marker scope scope', marks marker scope → marks marker scope' → scope = scope') :
    ((cls.methods ×ˢ cls.declaredScopes.value).countP fun x =>
        x.1.annotations.any (marks ·.marker x.2)) ≤
      (cls.methods.map (·.annotations.length)).sum := by
  rw [countP_product]
  exact List.sum_le_sum fun m _ => countP_any_le (p := fun a scope => marks a.marker scope)
    (fun a => hunique a.marker) cls.nodup_declaredScopes m.annotations

end ClassDecl

namespace Presentation

variable (presentation : Presentation) (cls : ClassDecl) (package : String)

/-- **Over all declared scopes a method is forwarded once for each scope that asks for it.** -/
theorem sum_length_methodsWithRole {role : Role} {asks : Method → Scope → Bool}
    (hrole : ∀ scope, (presentation.emit cls scope package).value.methodsWithRole role =
      forwards role (cls.methods.filter (asks · scope))) :
    ((presentation.emitDeclared cls package).value.map fun sub =>
        (sub.methodsWithRole role).length).sum =
      (cls.methods ×ˢ cls.declaredScopes.value).countP fun x => asks x.1 x.2 := by
  rw [value_emitDeclared, List.map_map, countP_product']
  refine congrArg List.sum (List.map_congr_left fun scope _ => ?_)
  rw [Function.comp_apply, hrole, length_forwards, List.countP_eq_length_filter]

/-- **The markers of a class are shared out to its scopes without loss or double use.**  There is
one class for each declared scope, each of a name of its own.  In each of the two roles as many
methods are forwarded as there are pairs of a declared method and a declared scope that it is marked
for, which are no more than the annotations, since an annotation marks for at most one scope in that
role; and an annotation alone does not make a method forwarded in both roles for one scope. -/
theorem distribution_emitDeclared (presentation : Presentation) (cls : ClassDecl)
    (package : String) :
    ((presentation.emitDeclared cls package).value.map (·.name) =
        cls.declaredScopes.value.map (·.classNameFor cls.name) ∧
      ((presentation.emitDeclared cls package).value.map (·.name)).Nodup) ∧
    (((presentation.emitDeclared cls package).value.map fun sub =>
          (sub.methodsWithRole .scopedForward).length).sum =
        ((cls.methods ×ˢ cls.declaredScopes.value).countP fun x => x.1.isMemberOf x.2) ∧
      ((cls.methods ×ˢ cls.declaredScopes.value).countP fun x => x.1.isMemberOf x.2) ≤
        (cls.methods.map (·.annotations.length)).sum ∧
      ∀ a : Annot, cls.declaredScopes.value.countP (a.marker.isMemberOf ·) ≤ 1) ∧
    (((presentation.emitDeclared cls package).value.map fun sub =>
          (sub.methodsWithRole .initializerForward).length).sum =
        ((cls.methods ×ˢ cls.declaredScopes.value).countP fun x => x.1.isInitializerOf x.2) ∧
      ((cls.methods ×ˢ cls.declaredScopes.value).countP fun x => x.1.isInitializerOf x.2) ≤
        (cls.methods.map (·.annotations.length)).sum ∧
      ∀ a : Annot, cls.declaredScopes.value.countP (a.marker.isInitializerOf ·) ≤ 1) ∧
    ∀ (scope : Scope) (signature : Signature) (a : Annot),
      (a.marker.isMemberOf scope && a.marker.isInitializerOf scope) = false ∧
      ((presentation.emit { cls with methods := [⟨signature, [a]⟩] } scope
          package).value.methodsWithRole .scopedForward = [] ∨
        (presentation.emit { cls with methods := [⟨signature, [a]⟩] } scope
          package).value.methodsWithRole .initializerForward = []) := by
  have hnames : (presentation.emitDeclared cls package).value.map (·.name) =
      cls.declaredScopes.value.map (·.classNameFor cls.name) := by
    rw [value_emitDeclared, List.map_map]
    rfl
  refine ⟨⟨hnames, ?_⟩, ⟨?_, ?_, fun a => ?_⟩, ⟨?_, ?_, fun a => ?_⟩, fun scope signature a => ?_⟩
  · rw [hnames]
    exact cls.nodup_declaredScopes.map (Scope.classNameFor_injective cls.name)
  · exact sum_length_methodsWithRole presentation cls package fun scope =>
      methodsWithRole_scopedForward presentation cls scope package
  · exact cls.countP_pairs_le fun _ _ _ => Marker.eq_of_isMemberOf
  · exact countP_le_one cls.nodup_declaredScopes fun _ _ => Marker.eq_of_isMemberOf
  · exact sum_length_methodsWithRole presentation cls package fun scope =>
      methodsWithRole_initializerForward presentation cls scope package
  · exact cls.countP_pairs_le fun _ _ _ => Marker.eq_of_isInitializerOf
  · exact countP_le_one cls.nodup_declaredScopes fun _ _ => Marker.eq_of_isInitializerOf
  · have hone := Marker.not_isMemberOf_and_isInitializerOf a.marker scope
    refine ⟨hone, ?_⟩
    rw [methodsWithRole_scopedForward, methodsWithRole_initializerForward]
    rcases Bool.and_eq_false_iff.mp hone with h | h
    · exact Or.inl (by simp [Method.isMemberOf, h])
    · exact Or.inr (by simp [Method.isInitializerOf, h])

end Presentation

end ScopeGen
