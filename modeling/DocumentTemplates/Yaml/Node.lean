import DocumentTemplates.OrderedMap
import DocumentTemplates.Yaml.Tag
import DocumentTemplates.Yaml.Token.Lexer

/-!
# YAML nodes

The nodes of a document as they are written, with tags in full and anchors and aliases by number.
A text holds one document. The number of an anchor is the count of distinct names met so far, so
one name may be anchored again, and several nodes may carry one number.
-/

namespace DocumentTemplates.Yaml

/-- A node of a document. -/
inductive Node where
  | aliasOf (anchor : Nat)
  | scalar (anchor : Option Nat) (tag : Option Tag) (text : String) (style : ScalarStyle)
  | sequence (anchor : Option Nat) (tag : Option Tag) (items : List Node)
  | mapping (anchor : Option Nat) (tag : Option Tag) (entries : List (Node × Node))

namespace Node

/-! ## Reading -/

/-- What is left to read, and the names known so far. -/
structure Reading where
  tokens : List Token
  /-- The addresses that handles of tags stand for. -/
  handles : OrderedMap (List UInt8) := []
  /-- The numbers of anchors. -/
  anchors : OrderedMap Nat := []

/-- A step that reads, or fails. -/
abbrev Reader := StateT Reading Option

def peek : Reader (Option Token) :=
  return (← get).tokens.head?

def skip : Reader Unit :=
  modify fun r => { r with tokens := r.tokens.drop 1 }

/-- Drops the next token if it is `t`, and says whether it was. -/
def accept (t : Token) : Reader Bool := do
  if (← peek) = some t then
    skip
    return true
  else return false

/-- The full name of a tag. -/
def fullTag (handle : String) (suffix : List UInt8) : Reader Tag := do
  if handle.isEmpty then return ⟨suffix⟩
  else match (← get).handles.get? handle with
    | some address => return ⟨address ++ suffix⟩
    | none =>
      if handle = "!" then return ⟨"!".toUTF8.toList ++ suffix⟩
      else if handle = "!!" then return ⟨"tag:yaml.org,2002:".toUTF8.toList ++ suffix⟩
      else failure

def numberAnchor (name : String) : Reader Nat := do
  let anchors := (← get).anchors
  modify fun r => { r with anchors := anchors.insert name anchors.length }
  return anchors.length

/-- The anchor and the tag that may stand in front of a node, in either order. -/
def readProperties : Reader (Option String × Option Tag) := do
  match ← peek with
  | some (.anchor name) =>
    skip
    match ← peek with
    | some (.tag handle suffix) =>
      skip
      return (some name, some (← fullTag handle suffix))
    | _ => return (some name, none)
  | some (.tag handle suffix) =>
    skip
    let anchor ← (do
      match ← peek with
      | some (.anchor name) =>
        skip
        return some name
      | _ => return none)
    return (anchor, some (← fullTag handle suffix))
  | _ => return (none, none)

/-- The empty scalar that stands where a node is left out. -/
def absent : Node :=
  .scalar none none "" .plain

/-- How the nodes inside a collection are read. A block collection may stand only where no bracket
is open, and a sequence without indentation only under a key. -/
structure Place where
  block : Bool
  unindented : Bool

/-- The place of an item of a block sequence. -/
def Place.item : Place := ⟨true, false⟩

def Place.entry : Place := ⟨true, true⟩

/-- The place of a node inside brackets or braces. -/
def Place.flow : Place := ⟨false, false⟩

/-- A node, unless one of the given tokens or the end shows that it is left out. -/
def nodeOrAbsent (node : Place → Reader Node) (place : Place) (ends : List Token) : Reader Node := do
  match ← peek with
  | some t => if t ∈ ends then return absent else node place
  | none => node place

/-- The items of a block sequence behind its start, up to its end. -/
def readItems (node : Place → Reader Node) : Nat → Reader (List Node)
  | 0 => failure
  | rounds + 1 => do
    if ← accept .blockEntry then
      let item ← nodeOrAbsent node .item [.blockEntry, .blockEnd]
      return item :: (← readItems node rounds)
    else if ← accept .blockEnd then return []
    else failure

/-- The items of a sequence without indentation of its own. It has no token at its end. -/
def readUnindentedItems (node : Place → Reader Node) : Nat → Reader (List Node)
  | 0 => failure
  | rounds + 1 => do
    if ← accept .blockEntry then
      let item ← nodeOrAbsent node .item [.blockEntry, .key, .value, .blockEnd]
      return item :: (← readUnindentedItems node rounds)
    else return []

/-- The entries of a block mapping behind its start, up to its end. -/
def readEntries (node : Place → Reader Node) : Nat → Reader (List (Node × Node))
  | 0 => failure
  | rounds + 1 => do
    if ← accept .key then
      let key ← nodeOrAbsent node .entry [.key, .value, .blockEnd]
      let value ←
        if ← accept .value then nodeOrAbsent node .entry [.key, .value, .blockEnd] else pure absent
      return (key, value) :: (← readEntries node rounds)
    else if ← accept .blockEnd then return []
    else failure

/-- The single pair that a key makes of an item of a flow sequence. Where the key is left out, the
token that shows it is passed over. -/
def readPair (node : Place → Reader Node) : Reader Node := do
  let key ← (do
    match ← peek with
    | some t =>
      if t ∈ [Token.value, .flowEntry, .flowSequenceEnd] then
        skip
        return absent
      else node .flow
    | none => node .flow)
  let value ←
    if ← accept .value then nodeOrAbsent node .flow [.flowEntry, .flowSequenceEnd] else pure absent
  return .mapping none none [(key, value)]

/-- The items of a flow sequence behind its start, up to its end. A comma stands between two, and
may stand behind the last. -/
def readFlowItems (node : Place → Reader Node) (first : Bool) : Nat → Reader (List Node)
  | 0 => failure
  | rounds + 1 => do
    if ← accept .flowSequenceEnd then return []
    else
      if !first && !(← accept .flowEntry) then failure
      if ← accept .flowSequenceEnd then return []
      else
        let item ← if ← accept .key then readPair node else node .flow
        return item :: (← readFlowItems node false rounds)

/-- The entries of a flow mapping behind its start, up to its end. A key may stand alone. -/
def readFlowEntries (node : Place → Reader Node) (first : Bool) :
    Nat → Reader (List (Node × Node))
  | 0 => failure
  | rounds + 1 => do
    if ← accept .flowMappingEnd then return []
    else
      if !first && !(← accept .flowEntry) then failure
      if ← accept .flowMappingEnd then return []
      else
        let entry ← (do
          if ← accept .key then
            let key ← nodeOrAbsent node .flow [.value, .flowEntry, .flowMappingEnd]
            let value ←
              if ← accept .value then nodeOrAbsent node .flow [.flowEntry, .flowMappingEnd]
              else pure absent
            return (key, value)
          else return (← node .flow, absent))
        return entry :: (← readFlowEntries node false rounds)

/-- A node at a place, in which at most `levels` nodes are open at once. Bounds on rounds count
tokens. -/
def read : Nat → Place → Reader Node
  | 0, _ => failure
  | levels + 1, place => do
    match ← peek with
    | some (.aliasOf name) =>
      skip
      match (← get).anchors.get? name with
      | some anchor => return .aliasOf anchor
      | none => failure
    | _ =>
      let (name, tag) ← readProperties
      let anchored : Reader (Option Nat) := name.mapM numberAnchor
      let rounds := (← get).tokens.length + 1
      match ← peek with
      | some .blockEntry =>
        if place.unindented then
          let anchor ← anchored
          return .sequence anchor tag (← readUnindentedItems (read levels) rounds)
        else if name.isSome || tag.isSome then return .scalar (← anchored) tag "" .plain
        else failure
      | some (.scalar text style) =>
        skip
        return .scalar (← anchored) tag text style
      | some .flowSequenceStart =>
        skip
        let anchor ← anchored
        return .sequence anchor tag (← readFlowItems (read levels) true rounds)
      | some .flowMappingStart =>
        skip
        let anchor ← anchored
        return .mapping anchor tag (← readFlowEntries (read levels) true rounds)
      | some t =>
        if place.block && t = .blockSequenceStart then
          skip
          let anchor ← anchored
          return .sequence anchor tag (← readItems (read levels) rounds)
        else if place.block && t = .blockMappingStart then
          skip
          let anchor ← anchored
          return .mapping anchor tag (← readEntries (read levels) rounds)
        else if name.isSome || tag.isSome then return .scalar (← anchored) tag "" .plain
        else failure
      | none =>
        if name.isSome || tag.isSome then return .scalar (← anchored) tag "" .plain
        else failure

/-- The directives in front of a document: at most one version, 1.1 or 1.2, and handles of tags,
each declared once. -/
def readDirectives (versioned : Bool) : Nat → Reader Unit
  | 0 => failure
  | rounds + 1 => do
    match ← peek with
    | some (.versionDirective major minor) =>
      if versioned || major ≠ 1 || (minor ≠ 1 && minor ≠ 2) then failure
      else
        skip
        readDirectives true rounds
    | some (.tagDirective handle address) =>
      let handles := (← get).handles
      if handles.contains handle then failure
      else
        skip
        modify fun r => { r with handles := handles.insert handle address }
        readDirectives versioned rounds
    | _ => return ()

/-- The root of a document, with or without a mark at its start. -/
def readDocument : Reader Node := do
  let size := (← get).tokens.length
  let explicit := match ← peek with
    | some (.versionDirective _ _) => true
    | some (.tagDirective _ _) => true
    | some .documentStart => true
    | _ => false
  if explicit then
    readDirectives false (size + 1)
    if ← accept .documentStart then
      match ← peek with
      | some (.versionDirective _ _) => return absent
      | some (.tagDirective _ _) => return absent
      | some .documentStart => return absent
      | some .documentEnd => return absent
      | some _ => read (size + 1) .item
      | none => return absent
    else failure
  else read (size + 1) .item

/-- The root of the only document of a text, if the text is well formed. A text without a document
has no root. -/
def ofText? (text : String) : Option (Option Node) := do
  let tokens ← Token.ofText? text
  if tokens.isEmpty then return none
  let (root, left) ← readDocument.run { tokens := tokens }
  if left.tokens.all (· = .documentEnd) then return some root else failure

/-! ## Size and anchors -/

mutual

/-- The number of marks of a node: one for a scalar or an alias, and two for a collection beside
those of its parts. -/
def size : Node → Nat
  | .aliasOf _ => 1
  | .scalar _ _ _ _ => 1
  | .sequence _ _ items => sizeItems items + 2
  | .mapping _ _ entries => sizeEntries entries + 2

def sizeItems : List Node → Nat
  | [] => 0
  | node :: rest => size node + sizeItems rest

def sizeEntries : List (Node × Node) → Nat
  | [] => 0
  | (key, value) :: rest => size key + size value + sizeEntries rest

end

def anchor? : Node → Option Nat
  | .aliasOf _ => none
  | .scalar anchor _ _ _ => anchor
  | .sequence anchor _ _ => anchor
  | .mapping anchor _ _ => anchor

mutual

/-- The anchored nodes in a node, in the order in which they begin. -/
def anchored (node : Node) : List (Nat × Node) :=
  (node.anchor?.map fun anchor => (anchor, node)).toList ++ (match node with
    | .sequence _ _ items => anchoredItems items
    | .mapping _ _ entries => anchoredEntries entries
    | _ => [])

def anchoredItems : List Node → List (Nat × Node)
  | [] => []
  | node :: rest => anchored node ++ anchoredItems rest

def anchoredEntries : List (Node × Node) → List (Nat × Node)
  | [] => []
  | (key, value) :: rest => anchored key ++ anchored value ++ anchoredEntries rest

end

/-- The node that an alias in the document of `root` stands for: of the nodes with its number the
one that begins last. -/
def target? (root : Node) (anchor : Nat) : Option Node :=
  (root.anchored.reverse.find? fun entry => entry.1 = anchor).map Prod.snd

end Node

end DocumentTemplates.Yaml
