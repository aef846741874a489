import SheetSchema.Yaml.Token

/-!
# YAML nodes

The tree that the tokens of a document spell. Aliases stay in the tree and name their anchors by
number; the anchored nodes are listed beside it, so that an anchor may be an ancestor of its alias.
-/

namespace SheetSchema.Yaml

/-- Node of a document. -/
inductive Node where
  /-- A reference to the node with an anchor. -/
  | alias (anchor : Nat)
  | scalar (tag : Option String) (text : String) (plain : Bool)
  | sequence (tag : Option String) (items : List Node)
  | mapping (tag : Option String) (entries : List (Node × Node))
deriving Inhabited

/-- The empty plain scalar, which stands where nothing is written. -/
def Node.blank : Node := .scalar none "" true

mutual

/-- How many parts a node is announced by: scalars and aliases by one, collections by their start,
their end and what is between. -/
def Node.parts : Node → Nat
  | .alias _ => 1
  | .scalar .. => 1
  | .sequence _ items => itemParts items + 2
  | .mapping _ entries => entryParts entries + 2

/-- Parts of the items of a sequence. -/
def itemParts : List Node → Nat
  | [] => 0
  | item :: items => item.parts + itemParts items

/-- Parts of the entries of a mapping. -/
def entryParts : List (Node × Node) → Nat
  | [] => 0
  | (key, value) :: entries => key.parts + value.parts + entryParts entries

end

/-- Node with an anchor. -/
structure Anchored where
  anchor : Nat
  /-- How many anchored nodes start before it. -/
  start : Nat
  node : Node

/-- One document: its root, if it holds anything, and its anchored nodes. -/
structure Document where
  root : Option Node
  anchored : List Anchored

namespace Document

/-- The node of an anchor; of several nodes the one that starts last. -/
def find? (document : Document) (anchor : Nat) : Option Node :=
  let named := document.anchored.filter fun anchored => anchored.anchor == anchor
  (named.foldl
    (fun (found : Option Anchored) anchored =>
      match found with
      | some other => if anchored.start < other.start then found else some anchored
      | none => some anchored)
    none).map Anchored.node

/-- How many aliases may be followed while the document is read. -/
def aliasBound (document : Document) : Nat :=
  100 * ((document.root.map Node.parts).getD 1)

end Document

/-! ## Reading tokens -/

/-- What is left to read, and the anchors so far. -/
structure Reading where
  tokens : List Token
  /-- Handles of tags with the texts that they stand for. -/
  handles : List (String × String)
  /-- Numbers of the anchors by name. -/
  names : List (String × Nat) := []
  /-- Number of anchored nodes that have started. -/
  starts : Nat := 0
  anchored : List Anchored := []

/-- Step of reading tokens, which may fail. -/
abbrev Reader := StateT Reading Option

namespace Reader

/-- The next token. -/
def peek : Reader (Option Token) := return (← get).tokens.head?

/-- Skip the next token. -/
def skip : Reader Unit := modify fun reading => { reading with tokens := reading.tokens.drop 1 }

/-- Skip the next token if it is the given one. -/
def skipIf (token : Token) : Reader Bool := do
  if (← peek) = some token then
    skip
    return true
  else
    return false

/-- Whether the next token is one of those given. -/
def nextIsIn (tokens : List Token) : Reader Bool := do
  match ← peek with
  | some token => return tokens.contains token
  | none => return false

/-- Give an anchor a number. A name that is used again takes a new number. -/
def startAnchor (name : String) : Reader (Nat × Nat) := do
  let reading ← get
  let anchor := reading.names.length
  let others := reading.names.filter fun entry => entry.1 != name
  set { reading with names := (name, anchor) :: others, starts := reading.starts + 1 }
  return (anchor, reading.starts)

/-- Keep the node of an anchor. -/
def keepAnchored (mark : Option (Nat × Nat)) (node : Node) : Reader Node := do
  if let some (anchor, start) := mark then
    modify fun reading => { reading with anchored := ⟨anchor, start, node⟩ :: reading.anchored }
  return node

/-- The full tag of a handle and a suffix. -/
def resolveTag (handle suffix : String) : Reader String := do
  if handle.isEmpty then return suffix
  match (← get).handles.lookup handle with
  | some start => return start ++ suffix
  | none => failure

/-- Read the anchor and the tag before a node, in either order. -/
def properties : Reader (Option String × Option String) := do
  match ← peek with
  | some (.anchor name) =>
    skip
    match ← peek with
    | some (.tag handle suffix) =>
      skip
      return (some name, some (← resolveTag handle suffix))
    | _ => return (some name, none)
  | some (.tag handle suffix) =>
    skip
    match ← peek with
    | some (.anchor name) =>
      skip
      return (some name, some (← resolveTag handle suffix))
    | _ => return (none, some (← resolveTag handle suffix))
  | _ => return (none, none)

/-- Tag of a scalar; the lone exclamation mark is none. -/
def scalarTag (tag : Option String) : Option String := tag.filter fun tag => tag != "!"

mutual

/-- Read a node. Blocks may start only where `block` holds, and the entries of a sequence without
indentation of its own only where `indentless` does. -/
def node (block indentless : Bool) : Nat → Reader Node
  | 0 => failure
  | fuel + 1 => do
    if let some (.alias name) ← peek then
      skip
      match (← get).names.lookup name with
      | some anchor => return .alias anchor
      | none => failure
    else
      let (anchor, tag) ← properties
      let mark ← anchor.mapM startAnchor
      match ← peek with
      | some (.scalar text plain) =>
        skip
        keepAnchored mark (.scalar (scalarTag tag) text plain)
      | some .flowSequenceStart =>
        skip
        keepAnchored mark (.sequence tag (← flowItems true fuel))
      | some .flowMappingStart =>
        skip
        keepAnchored mark (.mapping tag (← flowEntries true fuel))
      | next =>
        if next = some .blockEntry ∧ indentless then
          keepAnchored mark (.sequence tag (← indentlessItems fuel))
        else if next = some .blockSequenceStart ∧ block then
          skip
          keepAnchored mark (.sequence tag (← blockItems fuel))
        else if next = some .blockMappingStart ∧ block then
          skip
          keepAnchored mark (.mapping tag (← blockEntries fuel))
        else if anchor.isSome || tag.isSome then
          keepAnchored mark (.scalar (scalarTag tag) "" true)
        else failure

/-- Read a node, or nothing before one of the given tokens or the end. -/
def nodeUnless (ends : List Token) (block indentless : Bool) : Nat → Reader Node
  | 0 => failure
  | fuel + 1 => do
    if ← nextIsIn ends then return .blank
    else node block indentless fuel

/-- Read the entries of a block sequence. -/
def blockItems : Nat → Reader (List Node)
  | 0 => failure
  | fuel + 1 => do
    if ← skipIf .blockEntry then
      let item ← nodeUnless [.blockEntry, .blockEnd] true false fuel
      return item :: (← blockItems fuel)
    else if ← skipIf .blockEnd then return []
    else failure

/-- Read the entries of a sequence that is not indented further than its key. -/
def indentlessItems : Nat → Reader (List Node)
  | 0 => failure
  | fuel + 1 => do
    if ← skipIf .blockEntry then
      let item ← nodeUnless [.blockEntry, .key, .value, .blockEnd] true false fuel
      return item :: (← indentlessItems fuel)
    else return []

/-- Read the entries of a block mapping. -/
def blockEntries : Nat → Reader (List (Node × Node))
  | 0 => failure
  | fuel + 1 => do
    if ← skipIf .key then
      let key ← nodeUnless [.key, .value, .blockEnd] true true fuel
      let value ←
        if ← skipIf .value then nodeUnless [.key, .value, .blockEnd] true true fuel
        else pure .blank
      return (key, value) :: (← blockEntries fuel)
    else if ← skipIf .blockEnd then return []
    else failure

/-- Read the items of a sequence in brackets. A key makes its item a mapping of one entry. -/
def flowItems (first : Bool) : Nat → Reader (List Node)
  | 0 => failure
  | fuel + 1 => do
    if ← skipIf .flowSequenceEnd then return []
    if !first then
      if !(← skipIf .flowEntry) then failure
    if ← skipIf .key then
      let key ←
        if ← nextIsIn [.value, .flowEntry, .flowSequenceEnd] then do
          skip
          pure Node.blank
        else node false false fuel
      let value ←
        if ← skipIf .value then
          nodeUnless [.flowEntry, .flowSequenceEnd] false false fuel
        else pure .blank
      return .mapping none [(key, value)] :: (← flowItems false fuel)
    else if ← skipIf .flowSequenceEnd then return []
    else
      let item ← node false false fuel
      return item :: (← flowItems false fuel)

/-- Read the entries of a mapping in braces. -/
def flowEntries (first : Bool) : Nat → Reader (List (Node × Node))
  | 0 => failure
  | fuel + 1 => do
    if ← skipIf .flowMappingEnd then return []
    if !first then
      if !(← skipIf .flowEntry) then failure
    if ← skipIf .key then
      let key ← nodeUnless [.value, .flowEntry, .flowMappingEnd] false false fuel
      let value ←
        if ← skipIf .value then
          nodeUnless [.flowEntry, .flowMappingEnd] false false fuel
        else pure .blank
      return (key, value) :: (← flowEntries false fuel)
    else if ← skipIf .flowMappingEnd then return []
    else
      let key ← node false false fuel
      return (key, .blank) :: (← flowEntries false fuel)

end

/-! ## Documents -/

/-- Whether a version can be read. -/
def isKnownVersion (major minor : Nat) : Bool := major == 1 && (minor == 1 || minor == 2)

/-- Read the directives before a document. `versioned` tells whether the version was given. -/
def directives (versioned : Bool) (handles : List (String × String)) :
    List Token → Option (List (String × String) × List Token)
  | .version major minor :: rest =>
    if versioned || !isKnownVersion major minor then none else directives true handles rest
  | .tagDirective handle start :: rest =>
    if (handles.lookup handle).isSome then none
    else directives versioned ((handle, start) :: handles) rest
  | rest => some (handles, rest)

/-- Handles that every document knows. -/
def standardHandles : List (String × String) :=
  [("!", "!"), ("!!", "tag:yaml.org,2002:")]

/-- Whether a document starts with a marker or directives. -/
def isExplicit : List Token → Bool
  | .version .. :: _ | .tagDirective .. :: _ | .documentStart :: _ => true
  | _ => false

/-- Whether the content of a document ends before a token. -/
def endsDocument : Option Token → Bool
  | none => true
  | some (.version ..) | some (.tagDirective ..) | some .documentStart | some .documentEnd => true
  | _ => false

/-- Read the root of a document. -/
def root (explicit : Bool) (fuel : Nat) : Reader (Option Node) := do
  if explicit && endsDocument (← peek) then return some .blank
  else return some (← node true false fuel)

end Reader

/-- The only document of a list of tokens. -/
def Document.ofTokens? (tokens : List Token) : Option Document := do
  let fuel := 3 * tokens.length + 3
  if tokens.isEmpty then some ⟨none, []⟩
  else
    let (explicit, handles, tokens) ←
      if Reader.isExplicit tokens then do
        let (handles, rest) ← Reader.directives false [] tokens
        match rest with
        | .documentStart :: rest => some (true, handles, rest)
        | _ => none
      else some (false, [], tokens)
    let (root, reading) ← (Reader.root explicit fuel).run
      { tokens, handles := handles ++ Reader.standardHandles }
    if reading.tokens.all fun token => token = .documentEnd then some ⟨root, reading.anchored⟩
    else none

/-- Read the only document of a text. -/
def Document.ofText? (text : String) : Option Document := (Token.ofText? text).bind ofTokens?

end SheetSchema.Yaml
