import StorageSetup.Yaml.Token
/-!
# YAML nodes

A document is a tree of scalars, sequences and mappings. A node may carry an anchor, and an alias
stands for the node whose anchor it names.

Key definitions:
- `Node`: the tree, with anchors as numbers
- `Document`: the root with the nodes that have an anchor
- `Document.ofTokens?`: the only document of a token list
-/

namespace StorageSetup.Yaml

/-- The tree of a document. A plain scalar may be read as something else than a text. -/
inductive Node where
  | aliasOf (id : Nat)
  | scalar (tag : Option String) (text : String) (plain : Bool)
  | sequence (tag : Option String) (items : List Node)
  | mapping (tag : Option String) (entries : List (Node × Node))
  deriving Inhabited

/-- A scalar that is not written at all. -/
def Node.blank : Node :=
  .scalar none "" true

/-- The state while nodes are read. -/
structure Composer where
  tokens : List Token
  /-- What the handles of tags stand for. -/
  handles : List (String × String) := []
  /-- The anchors met so far, the last one first, with their numbers. -/
  anchors : List (String × Nat) := []
  /-- How many anchors there are so far. -/
  count : Nat := 0
  /-- The finished nodes with an anchor. -/
  anchored : List (Nat × Node) := []
  /-- How many signs a reader of the tree meets: one for a scalar or an alias, two for a sequence
  or mapping. -/
  events : Nat := 0

/-- A step of reading nodes. -/
abbrev Compose (α : Type) := StateT Composer (Except Error) α

namespace Compose

def fail {α : Type} (e : Error) : Compose α :=
  fun _ => .error e

def peek? : Compose (Option Token) := do
  return (← get).tokens.head?

def skip : Compose Unit :=
  modify fun s => { s with tokens := s.tokens.drop 1 }

/-- The next token is one of those given, or there is none. -/
def isAtAny (ts : List Token) : Compose Bool := do
  return (← peek?).all ts.contains

/-- Counts the signs of a node. -/
def count (n : Nat) : Compose Unit :=
  modify fun s => { s with events := s.events + n }

/-- A scalar that is not written at all. -/
def blank : Compose Node := do
  count 1
  return .blank

/-- What a node begins with before its content. -/
structure Properties where
  anchor : Option Nat := none
  tag : Option String := none

/-- Gives the next number to an anchor. -/
def newAnchor (name : String) : Compose Nat := do
  let s ← get
  set { s with anchors := (name, s.count) :: s.anchors, count := s.count + 1 }
  return s.count

/-- A tag with its handle resolved. -/
def resolveTag (handle rest : String) : Compose String := do
  if handle.isEmpty then return rest
  else
    match (← get).handles.lookup handle with
    | some start => return start ++ rest
    | none => fail (.unknownTagHandle handle)

/-- Anchor and tag of a node, in either order. -/
def properties : Compose Properties := do
  match ← peek? with
  | some (.anchor name) =>
    skip
    match ← peek? with
    | some (.tag handle rest) =>
      skip
      let tag ← resolveTag handle rest
      return ⟨← newAnchor name, tag⟩
    | _ => return ⟨← newAnchor name, none⟩
  | some (.tag handle rest) =>
    skip
    match ← peek? with
    | some (.anchor name) =>
      skip
      let tag ← resolveTag handle rest
      return ⟨← newAnchor name, tag⟩
    | _ => return ⟨none, ← resolveTag handle rest⟩
  | _ => return {}

/-- Keeps a node under its anchor. -/
def keep (p : Properties) (n : Node) : Compose Node := do
  match p.anchor with
  | some id => modify fun s => { s with anchored := (id, n) :: s.anchored }
  | none => pure ()
  return n

/-- The node an alias stands for. -/
def aliased (name : String) : Compose Node := do
  count 1
  match (← get).anchors.lookup name with
  | some id => return .aliasOf id
  | none => fail (.unknownAnchor name)

mutual

/-- A node. A block may begin only where blocks are allowed, and the entries of a sequence without
indentation only behind a key or its colon. -/
def node (blocks unindented : Bool) : Nat → Compose Node
  | 0 => fail .unexpectedToken
  | fuel + 1 => do
    match ← peek? with
    | some (.aliasName name) =>
      skip
      aliased name
    | _ =>
      let p ← properties
      match ← peek?, blocks, unindented with
      | some .blockEntry, _, true => do
        count 2
        keep p (.sequence p.tag (← unindentedEntries fuel))
      | some (.scalar text plain), _, _ =>
        skip
        count 1
        keep p (.scalar (p.tag.filter (· ≠ "!")) text plain)
      | some .flowSequenceStart, _, _ =>
        skip
        count 2
        keep p (.sequence p.tag (← flowItems true fuel))
      | some .flowMappingStart, _, _ =>
        skip
        count 2
        keep p (.mapping p.tag (← flowEntries true fuel))
      | some .blockSequenceStart, true, _ =>
        skip
        count 2
        keep p (.sequence p.tag (← blockEntries fuel))
      | some .blockMappingStart, true, _ =>
        skip
        count 2
        keep p (.mapping p.tag (← blockPairs fuel))
      | _, _, _ =>
        if p.anchor.isSome || p.tag.isSome then
          count 1
          keep p (.scalar p.tag "" true)
        else fail .unexpectedToken

/-- A node, or nothing before one of the given tokens. -/
def nodeUnless (ends : List Token) (blocks unindented : Bool) : Nat → Compose Node
  | 0 => fail .unexpectedToken
  | fuel + 1 => do
    if ← isAtAny ends then blank else node blocks unindented fuel

/-- The entries of a block sequence and its end. -/
def blockEntries : Nat → Compose (List Node)
  | 0 => fail .unexpectedToken
  | fuel + 1 => do
    match ← peek? with
    | some .blockEntry =>
      skip
      let item ← nodeUnless [.blockEntry, .blockEnd] true false fuel
      return item :: (← blockEntries fuel)
    | some .blockEnd =>
      skip
      return []
    | _ => fail .unexpectedToken

/-- The entries of a sequence without indentation, which ends where no entry follows. -/
def unindentedEntries : Nat → Compose (List Node)
  | 0 => fail .unexpectedToken
  | fuel + 1 => do
    match ← peek? with
    | some .blockEntry =>
      skip
      let item ← nodeUnless [.blockEntry, .key, .value, .blockEnd] true false fuel
      return item :: (← unindentedEntries fuel)
    | _ => return []

/-- The pairs of a block mapping and its end. -/
def blockPairs : Nat → Compose (List (Node × Node))
  | 0 => fail .unexpectedToken
  | fuel + 1 => do
    match ← peek? with
    | some .key =>
      skip
      let key ← nodeUnless [.key, .value, .blockEnd] true true fuel
      let value ← blockValue fuel
      return (key, value) :: (← blockPairs fuel)
    | some .blockEnd =>
      skip
      return []
    | _ => fail .unexpectedToken

/-- The value of a pair of a block mapping. -/
def blockValue : Nat → Compose Node
  | 0 => fail .unexpectedToken
  | fuel + 1 => do
    match ← peek? with
    | some .value =>
      skip
      nodeUnless [.key, .value, .blockEnd] true true fuel
    | _ => blank

/-- The items between square brackets and the closing bracket. -/
def flowItems (isFirst : Bool) : Nat → Compose (List Node)
  | 0 => fail .unexpectedToken
  | fuel + 1 => do
    match ← peek? with
    | some .flowSequenceEnd =>
      skip
      return []
    | next =>
      if !isFirst then
        if next = some .flowEntry then skip else fail .unexpectedToken
      match ← peek? with
      | some .flowSequenceEnd =>
        skip
        return []
      | some .key =>
        skip
        count 2
        let item ← flowPair fuel
        return item :: (← flowItems false fuel)
      | _ =>
        let item ← node false false fuel
        return item :: (← flowItems false fuel)

/-- A single pair as an item between square brackets. The sign behind an empty key is skipped. -/
def flowPair : Nat → Compose Node
  | 0 => fail .unexpectedToken
  | fuel + 1 => do
    let key ←
      if ← isAtAny [.value, .flowEntry, .flowSequenceEnd] then
        skip
        blank
      else node false false fuel
    let value ← flowValue [.flowEntry, .flowSequenceEnd] fuel
    return .mapping none [(key, value)]

/-- The value of a pair between brackets. -/
def flowValue (ends : List Token) : Nat → Compose Node
  | 0 => fail .unexpectedToken
  | fuel + 1 => do
    match ← peek? with
    | some .value =>
      skip
      nodeUnless ends false false fuel
    | _ => blank

/-- The pairs between curly brackets and the closing bracket. -/
def flowEntries (isFirst : Bool) : Nat → Compose (List (Node × Node))
  | 0 => fail .unexpectedToken
  | fuel + 1 => do
    match ← peek? with
    | some .flowMappingEnd =>
      skip
      return []
    | next =>
      if !isFirst then
        if next = some .flowEntry then skip else fail .unexpectedToken
      match ← peek? with
      | some .flowMappingEnd =>
        skip
        return []
      | some .key =>
        skip
        let key ← nodeUnless [.value, .flowEntry, .flowMappingEnd] false false fuel
        let value ← flowValue [.flowEntry, .flowMappingEnd] fuel
        return (key, value) :: (← flowEntries false fuel)
      | _ =>
        let key ← node false false fuel
        let value ← blank
        return (key, value) :: (← flowEntries false fuel)

end

/-- The handles every document knows. -/
def standardHandles : List (String × String) :=
  [("!", "!"), ("!!", "tag:yaml.org,2002:")]

/-- The directives before a document: at most one version, each handle once. -/
def directives : Nat → Bool → List (String × String) → Compose (Bool × List (String × String))
  | 0, _, _ => fail .unexpectedToken
  | fuel + 1, versioned, handles => do
    match ← peek? with
    | some (.versionDirective major minor) =>
      if versioned || major ≠ 1 || (minor ≠ 1 && minor ≠ 2) then fail .invalidDirective
      else
        skip
        directives fuel true handles
    | some (.tagDirective handle start) =>
      if (handles.lookup handle).isSome then fail .invalidDirective
      else
        skip
        directives fuel versioned ((handle, start) :: handles)
    | _ => return (versioned, handles)

/-- The only document of the tokens. A text without a document has no root. -/
def document (fuel : Nat) : Compose (Option Node) := do
  let (versioned, handles) ← directives fuel false []
  modify fun s => { s with handles := handles ++ standardHandles }
  match ← peek? with
  | none => if versioned || !handles.isEmpty then fail .missingDocumentStart else return none
  | some .documentStart =>
    skip
    let root ← nodeUnless [.documentStart, .documentEnd] true false fuel
    return root
  | _ =>
    if versioned || !handles.isEmpty then fail .missingDocumentStart
    else
      let root ← node true false fuel
      return root

/-- The ends of a document, behind which nothing may follow. -/
def finish : Nat → Compose Unit
  | 0 => fail .unexpectedToken
  | fuel + 1 => do
    match ← peek? with
    | none => return ()
    | some .documentEnd =>
      skip
      finish fuel
    | _ => fail .severalDocuments

end Compose

/-- A document: its root, if it has one, and the nodes that aliases stand for. -/
structure Document where
  root : Option Node
  anchored : List (Nat × Node)
  events : Nat

/-- The only document of the tokens. -/
def Document.ofTokens? (tokens : List Token) : Except Error Document := do
  let fuel := 4 * tokens.length + 8
  let read : Compose (Option Node) := do
    let root ← Compose.document fuel
    Compose.finish fuel
    return root
  let (root, s) ← read.run { tokens }
  .ok ⟨root, s.anchored, s.events⟩

end StorageSetup.Yaml
