import ScopeGen.Yaml.Token

/-!
# Yaml/Node — the tree of a YAML text

A **node** is a text, a sequence, a mapping, or an alias for a node elsewhere.  `Node.ofTokens?`
reads the single document that a text may hold; what is left out where a node is expected is an
empty plain text.
-/

namespace ScopeGen.Yaml

/-- A node of a document; `ι` says how anchors and aliases are told apart. -/
inductive Node (ι : Type) where
  | alias (target : ι)
  | scalar (anchor : Option ι) (tag : Option String) (plain : Bool) (text : String)
  | seq (anchor : Option ι) (tag : Option String) (items : List (Node ι))
  | map (anchor : Option ι) (tag : Option String) (entries : List (Node ι × Node ι))

namespace Node

/-- What stands for a node that is left out. -/
def empty {ι : Type} : Node ι := .scalar none none true ""

/-- What the handles of tags stand for. -/
abbrev Handles := List (String × Octets)

/-- The handles that need no declaration. -/
def defaultHandles : Handles :=
  [("!", Octets.ofChars ['!']), ("!!", Octets.ofChars "tag:yaml.org,2002:".toList)]

/-- The text of a tag, which is empty when its octets encode none; the handle has to be declared. -/
def tagText? (handles : Handles) (tag : Tag) : Option String :=
  if tag.handle = "" then
    (Octets.text? tag.suffix).getD ""
  else
    (handles.lookup tag.handle).map fun start => (Octets.text? (start ++ tag.suffix)).getD ""

/-- An anchor and a tag in front of a node. -/
structure Properties where
  anchor : Option String := none
  tag : Option Tag := none

/-! ## Places for a node -/

/-- A place where a node may be left out. -/
inductive Slot where
  /-- an item of a block sequence -/
  | item
  /-- an item of a sequence that is not indented further than the mapping around it -/
  | flushItem
  /-- a key or a value of a block mapping -/
  | blockPart
  /-- a key between braces -/
  | flowKey
  /-- a value between braces -/
  | flowValue
  /-- the value of a pair between brackets -/
  | pairValue

namespace Slot

/-- Whether no node stands in front of this token. -/
def endsAt : Slot → Token → Bool
  | .item, .entry | .item, .closeBlock => true
  | .flushItem, .entry | .flushItem, .key | .flushItem, .value | .flushItem, .closeBlock => true
  | .blockPart, .key | .blockPart, .value | .blockPart, .closeBlock => true
  | .flowKey, .value | .flowKey, .comma | .flowKey, .closeMapping => true
  | .flowValue, .comma | .flowValue, .closeMapping => true
  | .pairValue, .comma | .pairValue, .closeSequence => true
  | _, _ => false

/-- Whether a block collection may stand there. -/
def block : Slot → Bool
  | .item | .flushItem | .blockPart => true
  | .flowKey | .flowValue | .pairValue => false

/-- Whether items may stand there without indentation. -/
def flush : Slot → Bool
  | .blockPart => true
  | _ => false

end Slot

/-- Whether no key stands in front of this token in a pair between brackets. -/
def pairKeyEndsAt : Token → Bool
  | .value | .comma | .closeSequence => true
  | _ => false

/-! ## Reading -/

variable (handles : Handles)

mutual

/-- A node, with an anchor and a tag in front of it, and what follows. -/
def node? (block flush : Bool) (ts : List Token) : Option (Node String × List Token) :=
  match ts with
  | .anchor a :: .tag t :: ts | .tag t :: .anchor a :: ts => content? ⟨a, t⟩ block flush ts
  | .anchor a :: ts => content? ⟨a, none⟩ block flush ts
  | .tag t :: ts => content? ⟨none, t⟩ block flush ts
  | .alias name :: ts => some (.alias name, ts)
  | ts => content? {} block flush ts
termination_by (ts.length, 3)

/-- A node without the properties in front of it. -/
def content? (props : Properties) (block flush : Bool) (ts : List Token) :
    Option (Node String × List Token) := do
  let tag ← props.tag.mapM (tagText? handles)
  match ts with
  | .scalar plain text :: ts =>
    return (.scalar props.anchor tag plain text, ts)
  | .openSequence :: ts =>
    let (items, ts) ← flowItems? ts
    return (.seq props.anchor tag items, ts)
  | .openMapping :: ts =>
    let (entries, ts) ← flowEntries? ts
    return (.map props.anchor tag entries, ts)
  | ts =>
    match ts, block, flush with
    | .openBlockSequence :: ts, true, _ =>
      let (items, ts) ← blockItems? ts
      return (.seq props.anchor tag items, ts)
    | .openBlockMapping :: ts, true, _ =>
      let (entries, ts) ← blockEntries? ts
      return (.map props.anchor tag entries, ts)
    | .entry :: ts, _, true =>
      let (items, ts) ← flushItems? (.entry :: ts)
      return (.seq props.anchor tag items, ts)
    | ts, _, _ =>
      if props.anchor.isSome || props.tag.isSome then
        return (.scalar props.anchor tag true "", ts)
      else
        none
termination_by (ts.length, 2)

/-- The node in a place where it may be left out. -/
def slot? (slot : Slot) (ts : List Token) : Option (Node String × List Token) :=
  if ts.head?.any slot.endsAt then some (.empty, ts) else node? slot.block slot.flush ts
termination_by (ts.length, 4)

/-- The value of an entry, which may lack its mark too. -/
def entryValue? (slot : Slot) (ts : List Token) : Option (Node String × List Token) :=
  match ts with
  | .value :: ts => slot? slot ts
  | ts => some (.empty, ts)
termination_by (ts.length, 0)

/-- The items of a block sequence. -/
def blockItems? (ts : List Token) : Option (List (Node String) × List Token) :=
  match ts with
  | .entry :: ts => do
    let (item, ts') ← slot? .item ts
    if ts'.length ≤ ts.length then
      let (items, ts) ← blockItems? ts'
      return (item :: items, ts)
    else
      none
  | .closeBlock :: ts => some ([], ts)
  | _ => none
termination_by (ts.length, 0)

/-- The items of a sequence that is not indented further than the mapping around it. -/
def flushItems? (ts : List Token) : Option (List (Node String) × List Token) :=
  match ts with
  | .entry :: ts => do
    let (item, ts') ← slot? .flushItem ts
    if ts'.length ≤ ts.length then
      let (items, ts) ← flushItems? ts'
      return (item :: items, ts)
    else
      none
  | ts => some ([], ts)
termination_by (ts.length, 0)

/-- The entries of a block mapping. -/
def blockEntries? (ts : List Token) : Option (List (Node String × Node String) × List Token) :=
  match ts with
  | .key :: ts => do
    let (key, ts') ← slot? .blockPart ts
    if ts'.length ≤ ts.length then
      let (value, ts') ← entryValue? .blockPart ts'
      if ts'.length ≤ ts.length then
        let (entries, ts) ← blockEntries? ts'
        return ((key, value) :: entries, ts)
      else
        none
    else
      none
  | .closeBlock :: ts => some ([], ts)
  | _ => none
termination_by (ts.length, 0)

/-- The items between brackets.  A key makes its item a mapping with one entry; where a key is left
out, the token that shows it is passed over. -/
def flowItems? (ts : List Token) : Option (List (Node String) × List Token) :=
  match ts with
  | .closeSequence :: ts => some ([], ts)
  | .key :: ts => do
    let (key, ts') ←
      if ts.head?.any pairKeyEndsAt then some (.empty, ts.tail) else node? false false ts
    if ts'.length ≤ ts.length then
      let (value, ts') ← entryValue? .pairValue ts'
      if ts'.length ≤ ts.length then
        let (items, ts) ← moreFlowItems? ts'
        return (.map none none [(key, value)] :: items, ts)
      else
        none
    else
      none
  | ts => do
    let (item, ts') ← node? false false ts
    if ts'.length < ts.length then
      let (items, ts) ← moreFlowItems? ts'
      return (item :: items, ts)
    else
      none
termination_by (ts.length, 5)

/-- What follows an item between brackets. -/
def moreFlowItems? (ts : List Token) : Option (List (Node String) × List Token) :=
  match ts with
  | .closeSequence :: ts => some ([], ts)
  | .comma :: ts => flowItems? ts
  | _ => none
termination_by (ts.length, 0)

/-- The entries between braces. -/
def flowEntries? (ts : List Token) : Option (List (Node String × Node String) × List Token) :=
  match ts with
  | .closeMapping :: ts => some ([], ts)
  | .key :: ts => do
    let (key, ts') ← slot? .flowKey ts
    if ts'.length ≤ ts.length then
      let (value, ts') ← entryValue? .flowValue ts'
      if ts'.length ≤ ts.length then
        let (entries, ts) ← moreFlowEntries? ts'
        return ((key, value) :: entries, ts)
      else
        none
    else
      none
  | ts => do
    let (key, ts') ← node? false false ts
    if ts'.length < ts.length then
      let (entries, ts) ← moreFlowEntries? ts'
      return ((key, .empty) :: entries, ts)
    else
      none
termination_by (ts.length, 5)

/-- What follows an entry between braces. -/
def moreFlowEntries? (ts : List Token) : Option (List (Node String × Node String) × List Token) :=
  match ts with
  | .closeMapping :: ts => some ([], ts)
  | .comma :: ts => flowEntries? ts
  | _ => none
termination_by (ts.length, 0)

end

/-! ## Documents -/

/-- The directives in front of a document, and what follows them. -/
def directives : List Token → List Directive × List Token
  | .directive d :: ts =>
    let (ds, ts) := directives ts
    (d :: ds, ts)
  | ts => ([], ts)

/-- The handles that directives declare, each at most once.  The version may be given once and has
to be 1.1 or 1.2. -/
def declared? : (versioned : Bool) → Handles → List Directive → Option Handles
  | _, handles, [] => some (handles ++ defaultHandles)
  | true, _, .version .. :: _ => none
  | false, handles, .version major minor :: ds =>
    if major = 1 ∧ (minor = 1 ∨ minor = 2) then declared? true handles ds else none
  | versioned, handles, .handle handle start :: ds =>
    if (handles.lookup handle).isSome then none
    else declared? versioned (handles ++ [(handle, start)]) ds

/-- Whether a document has no content in front of this token. -/
def documentEndsAt : Token → Bool
  | .directive _ | .documentStart | .documentEnd => true
  | _ => false

/-- The node of the document that the tokens hold; no document is an empty one, and more than one is
refused. -/
def ofTokens? (ts : List Token) : Option (Node String) := do
  let (root, rest) ←
    match directives ts with
    | ([], []) => some (.empty, [])
    | (ds, .documentStart :: ts) => do
      let handles ← declared? false [] ds
      if ts.isEmpty || ts.head?.any documentEndsAt then
        some (.empty, ts)
      else
        node? handles true false ts
    | ([], ts) => node? defaultHandles true false ts
    | _ => none
  if rest.all (· matches .documentEnd) then some root else none

end Node

end ScopeGen.Yaml
