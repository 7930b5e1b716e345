import Runbook.Yaml.Scanner

/-!
# From tokens to a YAML document

* `Yaml.Scalar`, `Yaml.Node` : what a document is made of;
* `Yaml.Anchors` : the numbers of marked nodes and the scalars among them;
* `Yaml.parseNode` : the node at the start of a list of tokens;
* `Yaml.Document`, `Document.scalar?` : a document, and the scalar that a node of it stands for;
* `Yaml.read` : the document of a text, which holds one document at most.

There is no result where the text is malformed.
-/

namespace Runbook.Yaml

/-- A scalar with its way of writing and its tag, if it has one. -/
structure Scalar where
  text : List Char
  style : Style
  tag : Option (List UInt8)
deriving DecidableEq, Repr

/-- A node. An alias has the number of the node that it stands for. -/
inductive Node where
  | scalar (s : Scalar)
  | list (items : List Node)
  | map (entries : List (Node × Node))
  | alias (number : Nat)
deriving Repr

/-- The scalar that stands where nothing is written. -/
def Scalar.empty : Scalar := ⟨[], .plain, none⟩

/-! ## Anchors -/

/-- The scalars of marked nodes by their numbers, none for a list or a map. The first entry of a
number counts. -/
abbrev Targets := List (Nat × Option Scalar)

/-- The anchors so far: a number for each name, and what the numbers stand for, the latest first. A
name gets the number of names before it. So a name that is given again may share its number with the
next new name, and then stands for what that one marks. -/
structure Anchors where
  numbers : List (List Char × Nat)
  targets : Targets

namespace Anchors

/-- No anchors. -/
def none : Anchors := ⟨[], []⟩

/-- One more anchor. -/
def mark (a : Anchors) (name : List Char) (target : Option Scalar) : Anchors :=
  let number := a.numbers.length
  ⟨(name, number) :: a.numbers.filter (·.1 != name), (number, target) :: a.targets⟩

/-- The number of a name, if it is known. -/
def number? (a : Anchors) (name : List Char) : Option Nat := a.numbers.lookup name

end Anchors

/-! ## Nodes -/

/-- The tokens still to come, and the anchors so far. -/
structure Remaining where
  tokens : List Token
  anchors : Anchors

/-- Reads a part of a document; no result where it is malformed. -/
abbrev Part (α : Type) := StateT Remaining Option α

/-- The next token. -/
def peek : Part (Option Token) := return (← get).tokens.head?

/-- The next token left behind. -/
def drop : Part Unit := modify fun r => { r with tokens := r.tokens.drop 1 }

/-- Whether the next token is one of some; it is not left behind. -/
def nextIs (ts : List Token) : Part Bool := return (← peek).any ts.contains

/-- Whether the next token is the given one, which is then left behind. -/
def accept (t : Token) : Part Bool := do
  if (← peek) == some t then
    drop
    return true
  else return false

/-- Handles of tags, and what they stand for. -/
abbrev Handles := List (List Char × List UInt8)

/-- The handles that need no directive. -/
def Handles.standard : Handles :=
  [(['!'], bytesOf ['!']), (['!', '!'], bytesOf "tag:yaml.org,2002:".toList)]

/-- The anchor and the tag before a node, in either order. -/
def properties (handles : Handles) : Part (Option (List Char) × Option (List UInt8)) := do
  let tag (handle : List Char) (rest : List UInt8) : Part (Option (List UInt8)) :=
    if handle.isEmpty then return some rest
    else match handles.lookup handle with
      | some start => return some (start ++ rest)
      | none => failure
  match ← peek with
  | some (.anchor name) =>
    drop
    match ← peek with
    | some (.tag handle rest) =>
      drop
      return (some name, ← tag handle rest)
    | _ => return (some name, none)
  | some (.tag handle rest) =>
    drop
    match ← peek with
    | some (.anchor name) =>
      drop
      return (some name, ← tag handle rest)
    | _ => return (none, ← tag handle rest)
  | _ => return (none, none)

/-- A node with its anchor, if it has one, on record. -/
def marked (anchor : Option (List Char)) (target : Option Scalar) : Part Unit :=
  match anchor with
  | some name => modify fun r => { r with anchors := r.anchors.mark name target }
  | none => pure ()

/-- A scalar with its anchor, if it has one, on record. -/
def scalarNode (anchor : Option (List Char)) (s : Scalar) : Part Node := do
  marked anchor (some s)
  return .scalar s

/-- A comma before all items but the first, unless the bracket that ends them follows. -/
def separated (first : Bool) (ending : Token) : Part Unit := do
  if first then return ()
  else if ← nextIs [ending] then return ()
  else if ← accept .flowEntry then return ()
  else failure

mutual

/-- The node at the next token. `block` tells that it may be a block, and `hyphens` that it may be a
list of hyphens at the indentation of the map that holds it. `fuel` bounds the calls. -/
def parseNode (handles : Handles) : (fuel : Nat) → (block hyphens : Bool) → Part Node
  | 0, _, _ => failure
  | fuel + 1, block, hyphens => do
    if let some (.alias name) ← peek then
      drop
      match (← get).anchors.number? name with
      | some number => return .alias number
      | none => failure
    else
      let (anchor, tag) ← properties handles
      match ← peek with
      | some (.scalar text style) =>
        drop
        scalarNode anchor ⟨text, style, tag⟩
      | some .flowListStart =>
        drop
        marked anchor none
        return .list (← flowItems handles fuel true)
      | some .flowMapStart =>
        drop
        marked anchor none
        return .map (← flowEntries handles fuel true)
      | t =>
        if hyphens && t == some .blockEntry then
          marked anchor none
          return .list (← hyphenItems handles fuel)
        else if block && t == some .blockListStart then
          drop
          marked anchor none
          return .list (← blockItems handles fuel)
        else if block && t == some .blockMapStart then
          drop
          marked anchor none
          return .map (← blockEntries handles fuel)
        else if anchor.isSome || tag.isSome then
          scalarNode anchor ⟨[], .plain, tag⟩
        else failure

/-- A node, or the empty scalar where one of the given tokens follows. -/
def nodeUnless (handles : Handles) : (fuel : Nat) → List Token → (block hyphens : Bool) → Part Node
  | 0, _, _, _ => failure
  | fuel + 1, ends, block, hyphens => do
    if ← nextIs ends then return .scalar .empty
    else parseNode handles fuel block hyphens

/-- The items of a list of hyphens up to its end. -/
def blockItems (handles : Handles) : (fuel : Nat) → Part (List Node)
  | 0 => failure
  | fuel + 1 => do
    if ← accept .blockEntry then
      let v ← nodeUnless handles fuel [.blockEntry, .blockEnd] true false
      return v :: (← blockItems handles fuel)
    else if ← accept .blockEnd then return []
    else failure

/-- The items of a list of hyphens that is not indented. -/
def hyphenItems (handles : Handles) : (fuel : Nat) → Part (List Node)
  | 0 => failure
  | fuel + 1 => do
    if ← accept .blockEntry then
      let v ← nodeUnless handles fuel [.blockEntry, .key, .value, .blockEnd] true false
      return v :: (← hyphenItems handles fuel)
    else return []

/-- The entries of a map on lines of their own up to its end. -/
def blockEntries (handles : Handles) : (fuel : Nat) → Part (List (Node × Node))
  | 0 => failure
  | fuel + 1 => do
    if ← accept .key then
      let k ← nodeUnless handles fuel [.key, .value, .blockEnd] true true
      let v ←
        if ← accept .value then nodeUnless handles fuel [.key, .value, .blockEnd] true true
        else pure (.scalar .empty)
      return (k, v) :: (← blockEntries handles fuel)
    else if ← accept .blockEnd then return []
    else failure

/-- The items of a list in brackets up to its end. An item with a key is a map of one entry. -/
def flowItems (handles : Handles) : (fuel : Nat) → (first : Bool) → Part (List Node)
  | 0, _ => failure
  | fuel + 1, first => do
    separated first .flowListEnd
    if ← accept .flowListEnd then return []
    else if ← accept .key then
      let k ←
        if ← nextIs [.value, .flowEntry, .flowListEnd] then
          drop
          pure (.scalar .empty)
        else parseNode handles fuel false false
      let v ←
        if ← accept .value then nodeUnless handles fuel [.flowEntry, .flowListEnd] false false
        else pure (.scalar .empty)
      return .map [(k, v)] :: (← flowItems handles fuel false)
    else
      let v ← parseNode handles fuel false false
      return v :: (← flowItems handles fuel false)

/-- The entries of a map in braces up to its end. An item without a key is a key without a value. -/
def flowEntries (handles : Handles) : (fuel : Nat) → (first : Bool) → Part (List (Node × Node))
  | 0, _ => failure
  | fuel + 1, first => do
    separated first .flowMapEnd
    if ← accept .flowMapEnd then return []
    else if ← accept .key then
      let k ← nodeUnless handles fuel [.value, .flowEntry, .flowMapEnd] false false
      let v ←
        if ← accept .value then nodeUnless handles fuel [.flowEntry, .flowMapEnd] false false
        else pure (.scalar .empty)
      return (k, v) :: (← flowEntries handles fuel false)
    else
      let k ← parseNode handles fuel false false
      return (k, .scalar .empty) :: (← flowEntries handles fuel false)

end

/-! ## Documents -/

/-- The handles of the directives at the next token. There may be one version, 1.1 or 1.2, and one
directive for each handle. -/
def directives : (fuel : Nat) → (versioned : Bool) → Handles → Part Handles
  | 0, _, _ => failure
  | fuel + 1, versioned, handles => do
    match ← peek with
    | some (.version major minor) =>
      drop
      if versioned || major != 1 || !(minor == 1 || minor == 2) then failure
      directives fuel true handles
    | some (.tagHandle handle start) =>
      drop
      if (handles.lookup handle).isSome then failure
      directives fuel versioned ((handle, start) :: handles)
    | _ => return handles

/-- What can follow a document. -/
def endsDocument : Option Token → Bool
  | some (.version _ _) => true
  | some (.tagHandle _ _) => true
  | some .documentStart => true
  | some .documentEnd => true
  | some .textEnd => true
  | _ => false

/-- A document: its node, and the scalars that aliases stand for. -/
structure Document where
  root : Node
  targets : Targets

/-- The scalar that a node of a document stands for: no result for a list or a map, itself or by an
alias. An alias stands for the last node that its number was given to, before it or after it. -/
def Document.scalar? (d : Document) : Node → Option Scalar
  | .scalar s => some s
  | .alias number => (d.targets.lookup number).join
  | _ => none

/-- The node of the only document of a text, none if the text holds no document. -/
def onlyNode (fuel : Nat) : Part (Option Node) := do
  if ← accept .textEnd then return none
  else
    let before := (← get).tokens.length
    let handles ← directives fuel false []
    let handled := (← get).tokens.length < before
    let opened ← accept .documentStart
    if handled && !opened then failure
    let node ←
      if opened && endsDocument (← peek) then pure (.scalar .empty)
      else parseNode (handles ++ .standard) fuel true false
    modify fun r => { r with tokens := r.tokens.dropWhile (· == .documentEnd) }
    if ← accept .textEnd then return some node
    else failure

/-- The document of a text: no result where the text is malformed or holds several documents, and no
document where it holds none. -/
def read (text : String) : Option (Option Document) := do
  let ts ← tokens text.toList
  let (root, rest) ← (onlyNode (3 * ts.length + 3)).run ⟨ts, .none⟩
  some (root.map fun root => ⟨root, rest.anchors.targets⟩)

end Runbook.Yaml
