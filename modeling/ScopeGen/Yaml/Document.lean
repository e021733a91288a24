import ScopeGen.Yaml.Layout
import ScopeGen.Yaml.Node

/-!
# Yaml/Document — nodes that aliases stand for

In a **document** every alias has been given the number of its anchor.  An anchor is numbered by how
many different names have been bound before it, so binding a name again does not use up a number;
an alias stands for the last node that has its number.
-/

namespace ScopeGen.Yaml

namespace Node

variable {ι : Type}

/-! ## Anchors -/

/-- The names bound so far, with their numbers. -/
abbrev Names := List (String × Nat)

/-- Binds a name to the next number. -/
def bind : Option String → StateT Names Option (Option Nat)
  | none => return none
  | some name => do
    let names ← get
    let number := names.length
    set ((name, number) :: names.filter (·.1 != name))
    return some number

mutual

/-- The node with numbers for names; none when an alias names no anchor before it. -/
def link : Node String → StateT Names Option (Node Nat)
  | .alias name => do
    match (← get).lookup name with
    | some number => return .alias number
    | none => failure
  | .scalar anchor tag plain text => return .scalar (← bind anchor) tag plain text
  | .seq anchor tag items => return .seq (← bind anchor) tag (← linkItems items)
  | .map anchor tag entries => return .map (← bind anchor) tag (← linkEntries entries)

def linkItems : List (Node String) → StateT Names Option (List (Node Nat))
  | [] => return []
  | node :: rest => return (← link node) :: (← linkItems rest)

def linkEntries :
    List (Node String × Node String) → StateT Names Option (List (Node Nat × Node Nat))
  | [] => return []
  | (key, value) :: rest => return (← link key, ← link value) :: (← linkEntries rest)

end

/-- A node under its anchor, if it has one. -/
def under (anchor : Option ι) (node : Node ι) : List (ι × Node ι) :=
  anchor.toList.map fun a => (a, node)

mutual

/-- The anchored nodes in a node, each in front of those it contains. -/
def anchored : Node ι → List (ι × Node ι)
  | .alias _ => []
  | .scalar anchor tag plain text => under anchor (.scalar anchor tag plain text)
  | .seq anchor tag items => under anchor (.seq anchor tag items) ++ anchoredItems items
  | .map anchor tag entries => under anchor (.map anchor tag entries) ++ anchoredEntries entries

def anchoredItems : List (Node ι) → List (ι × Node ι)
  | [] => []
  | node :: rest => anchored node ++ anchoredItems rest

def anchoredEntries : List (Node ι × Node ι) → List (ι × Node ι)
  | [] => []
  | (key, value) :: rest => anchored key ++ anchored value ++ anchoredEntries rest

end

mutual

/-- How many marks a node makes up: one for an alias or a text, and two around a collection. -/
def size : Node ι → Nat
  | .alias _ | .scalar .. => 1
  | .seq _ _ items => 2 + sizeItems items
  | .map _ _ entries => 2 + sizeEntries entries

def sizeItems : List (Node ι) → Nat
  | [] => 0
  | node :: rest => size node + sizeItems rest

def sizeEntries : List (Node ι × Node ι) → Nat
  | [] => 0
  | (key, value) :: rest => size key + size value + sizeEntries rest

end

end Node

/-- A document: its node, and the nodes that aliases stand for, last one first. -/
structure Document where
  root : Node Nat
  targets : List (Nat × Node Nat)

namespace Document

/-- The node that an alias stands for. -/
def target? (document : Document) (number : Nat) : Option (Node Nat) :=
  document.targets.lookup number

/-- The document that a text holds. -/
def ofText? (text : String) : Option Document := do
  let (root, _) ← (← Node.ofTokens? (← Layout.scan? text)).link.run []
  return ⟨root, root.anchored.reverse⟩

end Document

end ScopeGen.Yaml
