import ScopeGen.Yaml.Tag

/-!
# Yaml/Token — the tokens of a YAML text

Besides what is written, tokens tell where a block collection begins and ends, which a text shows by
indentation only, and where a key begins.
-/

namespace ScopeGen.Yaml

/-- A token of a YAML text. -/
inductive Token where
  | directive (d : Directive)
  | documentStart
  | documentEnd
  | openBlockSequence
  | openBlockMapping
  | closeBlock
  | openSequence
  | closeSequence
  | openMapping
  | closeMapping
  /-- the dash in front of an item -/
  | entry
  | comma
  | key
  | value
  | alias (name : String)
  | anchor (name : String)
  | tag (tag : Tag)
  /-- a text; `plain` says that it is written without quotes and in no block -/
  | scalar (plain : Bool) (text : String)

end ScopeGen.Yaml
