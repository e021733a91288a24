import ScopeGen.Marker

/-!
# Annot — annotations and the constants they hold

An annotation has a name, named members and a marker.  A member's value is a constant, which may be
a list of constants or again an annotation.  Equality of values is decided here, since they are
nested through lists.
-/

namespace ScopeGen

mutual

/-- A constant held by a member of an annotation. -/
inductive Value where
  | string (text : String)
  | integer (n : Int64)
  | bool (b : Bool)
  /-- a class literal, such as `Foo.class` -/
  | type (name : String)
  /-- a constant of an enumeration, such as `RetentionPolicy.SOURCE` -/
  | enum (name : String)
  | annot (nested : Annot)
  | list (items : List Value)

/-- An annotation as applied: the scope role it gives need not be that of its name. -/
structure Annot where
  name : String
  members : List Member
  marker : Marker

/-- A named member of an annotation. -/
structure Member where
  name : String
  value : Value

end

/-! ## Equality -/

mutual

/-- Two constants are equal when they are of one kind and hold the same. -/
def Value.decEq : (a b : Value) → Decidable (a = b)
  | .string s, .string t => decidable_of_iff (s = t) (by simp)
  | .integer m, .integer n => decidable_of_iff (m = n) (by simp)
  | .bool a, .bool b => decidable_of_iff (a = b) (by simp)
  | .type s, .type t => decidable_of_iff (s = t) (by simp)
  | .enum s, .enum t => decidable_of_iff (s = t) (by simp)
  | .annot a, .annot b =>
    have := Annot.decEq a b
    decidable_of_iff (a = b) (by simp)
  | .list as, .list bs =>
    have := Value.decEqList as bs
    decidable_of_iff (as = bs) (by simp)
  | .string _, .integer _ | .string _, .bool _ | .string _, .type _ | .string _, .enum _
  | .string _, .annot _ | .string _, .list _
  | .integer _, .string _ | .integer _, .bool _ | .integer _, .type _ | .integer _, .enum _
  | .integer _, .annot _ | .integer _, .list _
  | .bool _, .string _ | .bool _, .integer _ | .bool _, .type _ | .bool _, .enum _
  | .bool _, .annot _ | .bool _, .list _
  | .type _, .string _ | .type _, .integer _ | .type _, .bool _ | .type _, .enum _
  | .type _, .annot _ | .type _, .list _
  | .enum _, .string _ | .enum _, .integer _ | .enum _, .bool _ | .enum _, .type _
  | .enum _, .annot _ | .enum _, .list _
  | .annot _, .string _ | .annot _, .integer _ | .annot _, .bool _
  | .annot _, .type _ | .annot _, .enum _ | .annot _, .list _
  | .list _, .string _ | .list _, .integer _ | .list _, .bool _ | .list _, .type _
  | .list _, .enum _ | .list _, .annot _ => isFalse (by simp)

/-- Two annotations are equal in all three fields. -/
def Annot.decEq : (a b : Annot) → Decidable (a = b)
  | ⟨n, ms, k⟩, ⟨n', ms', k'⟩ =>
    have := Member.decEqList ms ms'
    decidable_of_iff (n = n' ∧ ms = ms' ∧ k = k') (by simp)

def Member.decEq : (a b : Member) → Decidable (a = b)
  | ⟨n, v⟩, ⟨n', v'⟩ =>
    have := Value.decEq v v'
    decidable_of_iff (n = n' ∧ v = v') (by simp)

/-- Two lists of constants, compared item by item. -/
def Value.decEqList : (as bs : List Value) → Decidable (as = bs)
  | [], [] => isTrue rfl
  | [], _ :: _ | _ :: _, [] => isFalse (by simp)
  | a :: as, b :: bs =>
    have := Value.decEq a b
    have := Value.decEqList as bs
    decidable_of_iff (a = b ∧ as = bs) (by simp)

def Member.decEqList : (as bs : List Member) → Decidable (as = bs)
  | [], [] => isTrue rfl
  | [], _ :: _ | _ :: _, [] => isFalse (by simp)
  | a :: as, b :: bs =>
    have := Member.decEq a b
    have := Member.decEqList as bs
    decidable_of_iff (a = b ∧ as = bs) (by simp)

end

instance : DecidableEq Value := Value.decEq
instance : DecidableEq Annot := Annot.decEq
instance : DecidableEq Member := Member.decEq

/-! ## Views of a value -/

namespace Value

/-- The value as a list: one that is no list stands for the list of itself alone. -/
def items : Value → List Value
  | .list items => items
  | value => [value]

/-- The text of a string with its quotes left out, as a scope is written in it. -/
def scopeText? : Value → Option String
  | .string text => some (without '"' text)
  | _ => none

/-- The annotation that the value is. -/
def annot? : Value → Option Annot
  | .annot nested => some nested
  | _ => none

end Value

/-! ## Building and asking -/

namespace Annot

/-- The member of a class-level annotation that lists scopes. -/
def scopesMember : String := "scopes"

/-- The member of a class-level annotation that lists one annotation per scope. -/
def valuesMember : String := "values"

/-- An annotation without members; what follows the last dot of its name says which marker it is. -/
def ofName (name : String) : Annot :=
  ⟨name, [], Marker.ofName ("@" ++ afterLast '.' name)⟩

/-- The annotation with a member more, behind the others. -/
def withMember (a : Annot) (name : String) (value : Value) : Annot :=
  { a with members := a.members ++ [⟨name, value⟩] }

/-- The annotation with this marker, whatever its name says. -/
def withMarker (a : Annot) (marker : Marker) : Annot := { a with marker }

/-- The value of the first member of that name. -/
def member? (a : Annot) (name : String) : Option Value :=
  (a.members.find? (·.name == name)).map (·.value)

end Annot

end ScopeGen
