import ScopeGen.Scope

/-!
# Trace — what happens, told as events

An **event** is one thing that a generation reports: its level, its wording and its fields.
`Traced α` is a value together with the events on the way to it; `Traced.collect` runs over a list
and joins what each element gives, and its value and its events are those of the elements in turn
(`value_collect`, `events_collect`).
-/

namespace ScopeGen

/-- How much an event matters. -/
inductive Level where
  | trace
  | debug
  | warn
deriving DecidableEq

/-- The level as it is written in a log. -/
def Level.name : Level → String
  | .trace => "TRACE"
  | .debug => "DEBUG"
  | .warn => "WARN"

/-- A field of an event. -/
inductive Event.Field where
  | text (s : String)
  | count (n : Nat)
deriving DecidableEq

/-- What a generation reports. -/
inductive Event where
  /-- the generation of a class begins -/
  | emitting (cls : String) (scope : Scope) (generated : String)
  /-- the generation of a class has ended -/
  | emitted (generated : String) (annotations methods : Nat)
  /-- an annotation is copied to the generated class -/
  | copying (cls : String) (scope : Scope) (annot : String)
  /-- a class-level annotation lists the scope and gives no annotation for it -/
  | unmatched (cls : String) (scope : Scope) (annot : String) (position : Nat)
  /-- an initializer of the scope is overridden -/
  | initializer (method : String) (scope : Scope)
  /-- the initializers of the scope are called together -/
  | aggregate (calls : Nat)
  /-- a member of the scope is overridden -/
  | scoped (method : String) (scope : Scope)
  /-- a text listed among the scopes of a class names no scope -/
  | undeclarable (cls : String) (error : Scope.Error)
  /-- there is no file to read a presentation from -/
  | noPresentation (path : String)
deriving DecidableEq

namespace Event

/-- How much the event matters.  Only an annotation that is missing is worth a warning. -/
def level : Event → Level
  | .emitting .. | .emitted .. | .noPresentation .. => .debug
  | .copying .. | .initializer .. | .aggregate .. | .scoped .. | .undeclarable .. => .trace
  | .unmatched .. => .warn

/-- The wording of the event, without its fields. -/
def message : Event → String
  | .emitting .. => "Emitting scope class"
  | .emitted .. => "Emitted scope class"
  | .copying .. => "Copying scope annotation"
  | .unmatched .. => "No annotation in `values` at the position of the scope, skipping"
  | .initializer .. => "Forwarding initializer"
  | .aggregate .. => "Aggregating scope initializers"
  | .scoped .. => "Forwarding scoped method"
  | .undeclarable .. => "Skipping undeclarable scope"
  | .noPresentation .. => "No generator config file, using defaults"

/-- What the event is about, each part by name. -/
def fields : Event → List (String × Field)
  | .emitting cls scope generated =>
    [("class", .text cls), ("scope", .text scope.name), ("generated", .text generated)]
  | .emitted generated annotations methods =>
    [("generated", .text generated), ("annotations", .count annotations),
      ("methods", .count methods)]
  | .copying cls scope annot =>
    [("class", .text cls), ("scope", .text scope.name), ("annotation", .text annot)]
  | .unmatched cls scope annot position =>
    [("class", .text cls), ("scope", .text scope.name), ("annotation", .text annot),
      ("position", .count position)]
  | .initializer method scope | .scoped method scope =>
    [("method", .text method), ("scope", .text scope.name)]
  | .aggregate calls => [("calls", .count calls)]
  | .undeclarable cls error => [("class", .text cls), ("error", .text error.message)]
  | .noPresentation path => [("path", .text path)]

end Event

/-- A value with the events on the way to it. -/
@[ext] structure Traced (α : Type) where
  value : α
  events : List Event

namespace Traced

variable {α β : Type}

/-- Reports one event. -/
def report (e : Event) : Traced Unit := ⟨(), [e]⟩

instance : Monad Traced where
  pure a := ⟨a, []⟩
  bind x f := ⟨(f x.value).value, x.events ++ (f x.value).events⟩

/-- A value alone reports nothing; one action after another reports what both do, in order. -/
@[simp] theorem value_pure (a : α) : (pure a : Traced α).value = a := rfl
@[simp] theorem events_pure (a : α) : (pure a : Traced α).events = [] := rfl
@[simp] theorem value_bind (x : Traced α) (f : α → Traced β) :
    (x >>= f).value = (f x.value).value := rfl
@[simp] theorem events_bind (x : Traced α) (f : α → Traced β) :
    (x >>= f).events = x.events ++ (f x.value).events := rfl
@[simp] theorem events_report (e : Event) : (report e).events = [e] := rfl

instance : LawfulMonad Traced :=
  LawfulMonad.mk' Traced (fun x => by cases x; simp [Functor.map]) (fun _ _ => rfl)
    (fun x f g => by ext <;> simp)

/-- What is made of a value is reported as the value is. -/
@[simp] theorem value_map (f : α → β) (x : Traced α) : (f <$> x).value = f x.value := rfl
@[simp] theorem events_map (f : α → β) (x : Traced α) : (f <$> x).events = x.events := by
  simp [Functor.map]

/-- Runs over the list and joins what its elements give. -/
def collect (f : α → Traced (List β)) : List α → Traced (List β)
  | [] => pure []
  | a :: as => return (← f a) ++ (← collect f as)

/-- **What is collected is what the elements give in turn.** -/
@[simp] theorem value_collect (f : α → Traced (List β)) (as : List α) :
    (collect f as).value = as.flatMap (f · |>.value) := by
  induction as with
  | nil => rfl
  | cons a as ih => simp [collect, ih]

/-- **What is reported on the way is what the elements report in turn.** -/
@[simp] theorem events_collect (f : α → Traced (List β)) (as : List α) :
    (collect f as).events = as.flatMap (f · |>.events) := by
  induction as with
  | nil => rfl
  | cons a as ih => simp [collect, ih]

/-- Reporting and giving something for the elements that pass a test: what is given and what is
reported are the images of the elements that pass. -/
theorem value_collect_ite (p : α → Bool) (e : α → Event) (f : α → β) (as : List α) :
    (collect (fun a => if p a then do report (e a); return [f a] else pure []) as).value =
      (as.filter p).map f := by
  induction as with
  | nil => rfl
  | cons a as ih => cases h : p a <;> simp_all [collect]

theorem events_collect_ite (p : α → Bool) (e : α → Event) (f : α → β) (as : List α) :
    (collect (fun a => if p a then do report (e a); return [f a] else pure []) as).events =
      (as.filter p).map e := by
  induction as with
  | nil => rfl
  | cons a as ih => cases h : p a <;> simp_all [collect]

end Traced

end ScopeGen
