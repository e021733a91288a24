import ScopeGen.Source.Basic
import ScopeGen.Text.Int64
import ScopeGen.Yaml.Document
import ScopeGen.Yaml.Number

/-!
# Yaml/Source — reading typed values from YAML

The nodes of a document are a source.  A record is a mapping; an alternative is named by the tag of
a node, or by a text that has none.  An alias is read as the node it stands for, so often in a
document as its size allows.
-/

namespace ScopeGen.Yaml

/-- A node as a reader meets it. -/
structure View where
  node : Node Nat
  /-- how many collections may still be entered on the way down -/
  depth : Nat

/-- A reading of a document, which counts how often an alias has been followed. -/
abbrev Reading := ReaderT Document (StateT Nat (Except Refusal))

namespace View

/-- How many collections may contain each other on the way to a value. -/
def nestingLimit : Nat := 128

/-- How often aliases are followed, for each mark of the document. -/
def followLimit : Nat := 100

/-- Refuses the document, for whatever reason. -/
def refuse {α : Type} : Reading α := throw .malformed

/-- The view without an alias in front. -/
def follow (v : View) : Reading View := do
  match v.node with
  | .alias number => do
    let document ← read
    let followed := (← get) + 1
    set followed
    if document.root.size * followLimit < followed then
      refuse
    match document.target? number with
    | some node => return { v with node }
    | none => refuse
  | _ => return v

/-- The words for nothing. -/
def isNullText (text : String) : Bool := ["null", "Null", "NULL", "~"].contains text

/-- The view of a node inside the one that is viewed. -/
def inner (v : View) (node : Node Nat) : View := ⟨node, v.depth - 1⟩

/-- The text of a key, if it is one. -/
def key? (v : View) : Reading (Option String) :=
  try
    match (← v.follow).node with
    | .scalar _ _ _ text => return some text
    | _ => return none
  catch _ => return none

/-- The node without its tag. -/
def untagged : Node Nat → Node Nat
  | .alias number => .alias number
  | .scalar anchor _ plain text => .scalar anchor none plain text
  | .seq anchor _ items => .seq anchor none items
  | .map anchor _ entries => .map anchor none entries

/-- The tag of a node. -/
def tag? : Node Nat → Option String
  | .alias _ => none
  | .scalar _ tag _ _ | .seq _ tag _ | .map _ tag _ => tag

end View

open View

instance : Source View Reading where
  depth := nestingLimit
  text v := do
    match (← v.follow).node with
    | .scalar _ _ _ text => return text
    | _ => refuse
  int v := do
    match (← v.follow).node with
    | .scalar _ _ true text =>
      match (intOfText? text).bind int64? with
      | some n => return n
      | none => refuse
    | _ => refuse
  flag v := do
    match (← v.follow).node with
    | .scalar _ _ true text =>
      if ["true", "True", "TRUE"].contains text then return true
      else if ["false", "False", "FALSE"].contains text then return false
      else refuse
    | _ => refuse
  unit v := do
    match (← v.follow).node with
    | .scalar _ _ true text => if text = "" || isNullText text then return () else refuse
    | _ => refuse
  items v := do
    let v ← v.follow
    match v.node with
    | .seq _ _ items => if v.depth = 0 then refuse else return items.map v.inner
    | .scalar _ _ true "" => return []
    | _ => refuse
  optional v := do
    let v ← v.follow
    match v.node with
    | .scalar _ none true text => return if text = "" || isNullText text then none else some v
    | .scalar _ (some tag) true text =>
      if tag = "tag:yaml.org,2002:null" then
        if isNullText text then return none else refuse
      else
        return some v
    | _ => return some v
  shape _ v := do
    let v ← v.follow
    match v.node with
    | .map _ _ entries =>
      if v.depth = 0 then
        refuse
      else
        return .named (← entries.mapM fun (key, value) =>
          return (← (v.inner key).key?, v.inner value))
    | .scalar _ _ true "" => return .named []
    | _ => refuse
  choice v := do
    let v ← v.follow
    match (tag? v.node).bind (cutPrefix? "!"), v.node with
    | some name, node => return .filled name { v with node := untagged node } true
    | none, .scalar _ _ _ text => return .bare text
    | none, _ => refuse
  pass _ := return ()

/-- The value that a text holds, as `read` finds it. -/
def decode? {α : Type} (read : View → Reading α) (text : String) : Option α := do
  let document ← Document.ofText? text
  match ((read ⟨document.root, nestingLimit⟩).run document).run 0 with
  | .ok (value, _) => some value
  | .error _ => none

end ScopeGen.Yaml
