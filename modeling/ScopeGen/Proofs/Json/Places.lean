import ScopeGen.Proofs.Json.RoundTrip

/-!
# Proofs/Json/Places — the scopes in a value

A scope stands in the marker of an annotation, and annotations stand on methods, on classes and in
the members of other annotations.  `Schema.scopes` lists all scopes in a value.  A **place** is a
value as a function of one of them (`Place`); each scope has one (`Schema.placed`).
-/

namespace ScopeGen

/-! ## The scopes in a value -/

/-- The scopes in a value, in the order in which they are written. -/
def Marker.scopes : Marker → List Scope
  | .member scope | .initializer scope => [scope]
  | .other => []

mutual

/-- Only an annotation in a value has scopes, and it may stand in lists. -/
def Value.scopes : Value → List Scope
  | .annot nested => nested.scopes
  | .list items => Value.scopesIn items
  | .string _ | .integer _ | .bool _ | .type _ | .enum _ => []

/-- The marker of an annotation is written behind its members. -/
def Annot.scopes : Annot → List Scope
  | ⟨_, members, marker⟩ => Member.scopesIn members ++ marker.scopes

def Member.scopes : Member → List Scope
  | ⟨_, value⟩ => value.scopes

/-- The scopes in the items of a list, which the recursion takes one by one. -/
def Value.scopesIn : List Value → List Scope
  | [] => []
  | value :: rest => value.scopes ++ Value.scopesIn rest

def Member.scopesIn : List Member → List Scope
  | [] => []
  | member :: rest => member.scopes ++ Member.scopesIn rest

end

/-- From outside, the recursion over a list is a `flatMap`. -/
theorem Value.scopesIn_eq_flatMap (values : List Value) :
    Value.scopesIn values = values.flatMap Value.scopes := by
  induction values with
  | nil => rw [Value.scopesIn, List.flatMap_nil]
  | cons value rest ih => rw [Value.scopesIn, ih, List.flatMap_cons]

theorem Member.scopesIn_eq_flatMap (members : List Member) :
    Member.scopesIn members = members.flatMap Member.scopes := by
  induction members with
  | nil => rw [Member.scopesIn, List.flatMap_nil]
  | cons member rest ih => rw [Member.scopesIn, ih, List.flatMap_cons]

/-- There are no scopes in a signature. -/
def Method.scopes (m : Method) : List Scope := m.annotations.flatMap Annot.scopes

/-- The annotations on a class are written behind its methods. -/
def ClassDecl.scopes (cls : ClassDecl) : List Scope :=
  cls.methods.flatMap Method.scopes ++ cls.annotations.flatMap Annot.scopes

/-- There are no scopes in a generated method. -/
def Subclass.scopes (sub : Subclass) : List Scope := sub.annotations.flatMap Annot.scopes

/-- The scopes in a value of any type; five of the types have none. -/
def Schema.scopes : (s : Schema) → s.Carrier → List Scope
  | cls => ClassDecl.scopes
  | method => Method.scopes
  | annot => Annot.scopes
  | member => Member.scopes
  | value => Value.scopes
  | marker => Marker.scopes
  | scope => fun scope => [scope]
  | subclass => Subclass.scopes
  | signature | parameter | override | role | call => fun _ => []

/-! ## Places -/

/-- A value of which one scope is left open. -/
inductive Place : (s : Schema) → (Scope → s.Carrier) → Prop where
  | here : Place .scope fun scope => scope
  | member : Place .marker Marker.member
  | initializer : Place .marker Marker.initializer
  | kind {fill : Scope → Marker} (a : Annot) : Place .marker fill →
      Place .annot fun scope => ({ a with marker := fill scope } : Annot)
  | among {fill : Scope → Member} (a : Annot) (before after : List Member) : Place .member fill →
      Place .annot fun scope => ({ a with members := before ++ fill scope :: after } : Annot)
  | held {fill : Scope → Value} (name : String) : Place .value fill →
      Place .member fun scope => (⟨name, fill scope⟩ : Member)
  | nested {fill : Scope → Annot} : Place .annot fill →
      Place .value fun scope => Value.annot (fill scope)
  | item {fill : Scope → Value} (before after : List Value) : Place .value fill →
      Place .value fun scope => Value.list (before ++ fill scope :: after)
  | applied {fill : Scope → Annot} (m : Method) (before after : List Annot) : Place .annot fill →
      Place .method fun scope => ({ m with annotations := before ++ fill scope :: after } : Method)
  | declared {fill : Scope → Method} (cls : ClassDecl) (before after : List Method) :
      Place .method fill →
      Place .cls fun scope =>
        ({ cls with methods := before ++ fill scope :: after } : ClassDecl)
  | listing {fill : Scope → Annot} (cls : ClassDecl) (before after : List Annot) :
      Place .annot fill →
      Place .cls fun scope =>
        ({ cls with annotations := before ++ fill scope :: after } : ClassDecl)
  | copied {fill : Scope → Annot} (sub : Subclass) (before after : List Annot) :
      Place .annot fill →
      Place .subclass fun scope =>
        ({ sub with annotations := before ++ fill scope :: after } : Subclass)

/-! ## Each scope has a place -/

/-- An element stands in the first of two lists or in the second. -/
theorem append_eq_append_cons {α : Type} {as bs left right : List α} {a : α}
    (h : as ++ bs = left ++ a :: right) :
    (∃ right', as = left ++ a :: right' ∧ right = right' ++ bs) ∨
      ∃ left', bs = left' ++ a :: right ∧ left = as ++ left' := by
  obtain ⟨left', hleft, hbs⟩ | ⟨middle, has, hmiddle⟩ := List.append_eq_append_iff.1 h
  · exact .inr ⟨left', hbs, hleft⟩
  · cases middle with
    | nil => exact .inr ⟨[], hmiddle.symm, by simp [has]⟩
    | cons first middle =>
      obtain ⟨rfl, hright⟩ := List.cons_eq_cons.1 hmiddle
      exact .inl ⟨middle, has, hright⟩

section

variable {α : Type} (scopes : α → List Scope) (places : (Scope → α) → Prop)

/-- Each of the scopes in the value has one of the places. -/
def Placed (v : α) : Prop :=
  ∀ (left : List Scope) (scope : Scope) (right : List Scope),
    scopes v = left ++ scope :: right →
      ∃ fill, places fill ∧ fill scope = v ∧ ∀ other, scopes (fill other) = left ++ other :: right

variable {scopes places}

/-- Where there is no scope, nothing has to have a place. -/
theorem Placed.of_nil {v : α} (h : scopes v = []) : Placed scopes places v :=
  fun left scope right hv => absurd (h.symm.trans hv) (by simp)

/-- The only scope in a value has the value itself as its place. -/
theorem Placed.of_singleton {fill : Scope → α} (hplace : places fill)
    (hscopes : ∀ scope, scopes (fill scope) = [scope]) (scope : Scope) :
    Placed scopes places (fill scope) := by
  intro left other right h
  rw [hscopes] at h
  obtain ⟨rfl, rfl, rfl⟩ : left = [] ∧ scope = other ∧ right = [] := by
    cases left <;> simp_all
  exact ⟨fill, hplace, rfl, hscopes⟩

/-- A scope in a list of values has a place in one of them. -/
theorem Placed.exists_of_flatMap {vs : List α} (h : ∀ v ∈ vs, Placed scopes places v)
    {left right : List Scope} {scope : Scope} (hvs : vs.flatMap scopes = left ++ scope :: right) :
    ∃ before fill after, places fill ∧ before ++ fill scope :: after = vs ∧
      ∀ other, (before ++ fill other :: after).flatMap scopes = left ++ other :: right := by
  induction vs generalizing left with
  | nil => simp at hvs
  | cons v vs ih =>
    rw [List.flatMap_cons] at hvs
    obtain ⟨right', hv, rfl⟩ | ⟨left', hrest, rfl⟩ := append_eq_append_cons hvs
    · obtain ⟨fill, hplace, hfill, hscopes⟩ := h v List.mem_cons_self left scope right' hv
      refine ⟨[], fill, vs, hplace, by rw [hfill, List.nil_append], fun other => ?_⟩
      rw [List.nil_append, List.flatMap_cons, hscopes, List.append_assoc, List.cons_append]
    · obtain ⟨before, fill, after, hplace, hfill, hscopes⟩ :=
        ih (fun w hw => h w (List.mem_cons_of_mem v hw)) hrest
      refine ⟨v :: before, fill, after, hplace, by rw [List.cons_append, hfill], fun other => ?_⟩
      rw [List.cons_append, List.flatMap_cons, hscopes, List.append_assoc]

end

/-- A marker has one scope or none. -/
theorem Marker.placed (marker : Marker) : Placed Marker.scopes (Place .marker) marker := by
  cases marker with
  | member scope => exact .of_singleton .member (fun _ => rfl) scope
  | initializer scope => exact .of_singleton .initializer (fun _ => rfl) scope
  | other => exact .of_nil rfl

/-- The same in terms of the members of the annotation. -/
theorem Annot.scopes_eq (a : Annot) :
    a.scopes = a.members.flatMap Member.scopes ++ a.marker.scopes := by
  cases a
  rw [Annot.scopes, Member.scopesIn_eq_flatMap]

/-- A scope in an annotation stands in one of its members, or else in its marker. -/
theorem Annot.placed_of_members {a : Annot}
    (h : ∀ member ∈ a.members, Placed Member.scopes (Place .member) member) :
    Placed Annot.scopes (Place .annot) a := by
  intro left scope right ha
  rw [Annot.scopes_eq] at ha
  obtain ⟨name, members, marker⟩ := a
  obtain ⟨right', hmembers, rfl⟩ | ⟨left', hmarker, rfl⟩ := append_eq_append_cons ha
  · obtain ⟨before, fill, after, hplace, rfl, hscopes⟩ := Placed.exists_of_flatMap h hmembers
    refine ⟨_, .among ⟨name, [], marker⟩ before after hplace, rfl, fun other => ?_⟩
    rw [Annot.scopes_eq, hscopes, List.append_assoc, List.cons_append]
  · obtain ⟨fill, hplace, rfl, hscopes⟩ := marker.placed left' scope right hmarker
    refine ⟨_, .kind ⟨name, members, .other⟩ hplace, rfl, fun other => ?_⟩
    rw [Annot.scopes_eq, hscopes, List.append_assoc]

mutual

/-- **Each scope in a value has a place**: by recursion on the value, as it is written. -/
theorem Value.placed : ∀ v : Value, Placed Value.scopes (Place .value) v
  | .string _ | .integer _ | .bool _ | .type _ | .enum _ => .of_nil (by rw [Value.scopes])
  | .annot nested => fun left scope right h => by
      rw [Value.scopes] at h
      obtain ⟨fill, hplace, rfl, hscopes⟩ := Annot.placed nested left scope right h
      refine ⟨_, .nested hplace, rfl, fun other => ?_⟩
      rw [Value.scopes, hscopes]
  | .list items => fun left scope right h => by
      rw [Value.scopes, Value.scopesIn_eq_flatMap] at h
      obtain ⟨before, fill, after, hplace, rfl, hscopes⟩ :=
        Placed.exists_of_flatMap (Value.placed_of_mem items) h
      refine ⟨_, .item before after hplace, rfl, fun other => ?_⟩
      rw [Value.scopes, Value.scopesIn_eq_flatMap, hscopes]

theorem Annot.placed : ∀ a : Annot, Placed Annot.scopes (Place .annot) a
  | ⟨_, members, _⟩ => Annot.placed_of_members (Member.placed_of_mem members)

theorem Member.placed : ∀ member : Member, Placed Member.scopes (Place .member) member
  | ⟨name, value⟩ => fun left scope right h => by
      rw [Member.scopes] at h
      obtain ⟨fill, hplace, rfl, hscopes⟩ := Value.placed value left scope right h
      refine ⟨_, .held name hplace, rfl, fun other => ?_⟩
      rw [Member.scopes, hscopes]

/-- The recursion takes the items of a list one by one, and each has its places. -/
theorem Value.placed_of_mem : ∀ values : List Value,
    ∀ v ∈ values, Placed Value.scopes (Place .value) v
  | [] => nofun
  | v :: rest => List.forall_mem_cons.2 ⟨Value.placed v, Value.placed_of_mem rest⟩

theorem Member.placed_of_mem : ∀ members : List Member,
    ∀ member ∈ members, Placed Member.scopes (Place .member) member
  | [] => nofun
  | member :: rest => List.forall_mem_cons.2 ⟨Member.placed member, Member.placed_of_mem rest⟩

end

/-- A scope in a method stands in one of the annotations on it. -/
theorem Method.placed (m : Method) : Placed Method.scopes (Place .method) m := by
  intro left scope right h
  obtain ⟨before, fill, after, hplace, hfill, hscopes⟩ :=
    Placed.exists_of_flatMap (fun a _ => a.placed) h
  exact ⟨_, .applied m before after hplace, by rw [hfill], hscopes⟩

/-- A scope in a class stands in one of its methods, or else in an annotation on it. -/
theorem ClassDecl.placed (cls : ClassDecl) : Placed ClassDecl.scopes (Place .cls) cls := by
  intro left scope right h
  obtain ⟨right', hmethods, rfl⟩ | ⟨left', hannotations, rfl⟩ := append_eq_append_cons h
  · obtain ⟨before, fill, after, hplace, hfill, hscopes⟩ :=
      Placed.exists_of_flatMap (fun m _ => m.placed) hmethods
    refine ⟨_, .declared cls before after hplace, by rw [hfill], fun other => ?_⟩
    rw [ClassDecl.scopes, hscopes, List.append_assoc, List.cons_append]
  · obtain ⟨before, fill, after, hplace, hfill, hscopes⟩ :=
      Placed.exists_of_flatMap (fun a _ => a.placed) hannotations
    refine ⟨_, .listing cls before after hplace, by rw [hfill], fun other => ?_⟩
    rw [ClassDecl.scopes, hscopes, List.append_assoc]

theorem Subclass.placed (sub : Subclass) : Placed Subclass.scopes (Place .subclass) sub := by
  intro left scope right h
  obtain ⟨before, fill, after, hplace, hfill, hscopes⟩ :=
    Placed.exists_of_flatMap (fun a _ => a.placed) h
  exact ⟨_, .copied sub before after hplace, by rw [hfill], hscopes⟩

/-- **Each scope in a value has a place.** -/
theorem Schema.placed (s : Schema) (v : s.Carrier) : Placed s.scopes (Place s) v := by
  cases s with
  | cls => exact ClassDecl.placed v
  | method => exact Method.placed v
  | annot => exact Annot.placed v
  | member => exact Member.placed v
  | value => exact Value.placed v
  | marker => exact Marker.placed v
  | scope =>
    have hplace : Place .scope fun scope => scope := .here
    exact Placed.of_singleton hplace (fun _ => rfl) v
  | subclass => exact Subclass.placed v
  | signature | parameter | override | role | call => exact .of_nil rfl

end ScopeGen
