import Sift.Yaml.Token

/-! # The tree of a YAML document

A text holds at most one document, which is one node: a scalar, a sequence, a mapping, or an alias
of another node.  A node may bear an anchor and a tag.

Anchors are numbered: one gets the number of the different names seen before it.  A name that comes
a second time therefore shares its number with the next new name, and an alias stands for the last
node of the document that bears the number. -/

namespace Sift.Yaml

/-- What may stand before the content of a node. -/
structure Properties where
  /-- The number of its anchor. -/
  anchor : Option Nat := none
  tag : Option String := none

inductive Node where
  /-- Another node, by the number of its anchor. -/
  | alias (number : Nat)
  | scalar (properties : Properties) (text : String) (plain : Bool)
  | sequence (properties : Properties) (items : List Node)
  | mapping (properties : Properties) (entries : List (Node × Node))

namespace Node

/-- The scalar that stands where nothing is written. -/
def empty (properties : Properties := {}) : Node := .scalar properties "" true

mutual

/-- The nodes that bear an anchor, with its number, in the order of the document. -/
def anchored : Node → List (Nat × Node)
  | .alias _ => []
  | .scalar properties text plain =>
    (properties.anchor.map (·, .scalar properties text plain)).toList
  | .sequence properties items =>
    (properties.anchor.map (·, .sequence properties items)).toList ++ anchoredItems items
  | .mapping properties entries =>
    (properties.anchor.map (·, .mapping properties entries)).toList ++ anchoredEntries entries

def anchoredItems : List Node → List (Nat × Node)
  | [] => []
  | item :: rest => anchored item ++ anchoredItems rest

def anchoredEntries : List (Node × Node) → List (Nat × Node)
  | [] => []
  | (key, value) :: rest => anchored key ++ anchored value ++ anchoredEntries rest

end

mutual

/-- How much is written: each scalar and alias counts once, each collection twice and its parts. -/
def weight : Node → Nat
  | .alias _ => 1
  | .scalar .. => 1
  | .sequence _ items => 2 + weightItems items
  | .mapping _ entries => 2 + weightEntries entries

def weightItems : List Node → Nat
  | [] => 0
  | item :: rest => weight item + weightItems rest

def weightEntries : List (Node × Node) → Nat
  | [] => 0
  | (key, value) :: rest => weight key + weight value + weightEntries rest

end

end Node

/-! ## Reading a node from tokens -/

/-- What is known while nodes are read. -/
structure Composer where
  tokens : List Token
  /-- What the handles of tags stand for. -/
  handles : List (String × String)
  /-- The numbers of the anchors seen so far, one per name. -/
  anchors : List (String × Nat)

/-- A reader of tokens that may refuse them. -/
abbrev Compose := StateT Composer Option

namespace Compose

/-- The next token, which stays. -/
def peek : Compose (Option Token) := do return (← get).tokens.head?

/-- Drops the next token. -/
def skip : Compose Unit := modify fun s => { s with tokens := s.tokens.drop 1 }

/-- Drops the next token if it is the given one, and tells whether it was. -/
def take (token : Token) : Compose Bool := do
  if (← peek) == some token then
    skip
    return true
  else return false

/-- Whether one of some tokens comes next. -/
def seesAny (tokens : List Token) : Compose Bool := do
  return (← peek).any tokens.contains

/-- Gives an anchor its number. -/
def numberAnchor (name : String) : Compose Nat := do
  let anchors := (← get).anchors
  let number := anchors.length
  -- a name that comes again takes its old entry away, so the count of names does not grow
  modify fun s => { s with anchors := (name, number) :: anchors.filter (·.1 != name) }
  return number

/-- The full name of a tag; an unknown handle is refused. -/
def fullTag (handle suffix : String) : Compose String := do
  if handle.isEmpty then return suffix
  match (← get).handles.lookup handle with
  | some stem => return stem ++ suffix
  | none => failure

/-- Reads an anchor and a tag, in either order and each at most once. -/
def properties : Compose Properties := do
  match ← peek with
  | some (.anchor name) =>
    skip
    match ← peek with
    | some (.tag handle suffix) =>
      skip
      let tag ← fullTag handle suffix
      return ⟨some (← numberAnchor name), some tag⟩
    | _ => return ⟨some (← numberAnchor name), none⟩
  | some (.tag handle suffix) =>
    skip
    let tag ← fullTag handle suffix
    match ← peek with
    | some (.anchor name) =>
      skip
      return ⟨some (← numberAnchor name), some tag⟩
    | _ => return ⟨none, some tag⟩
  | _ => return {}

/-- Reads a node, or the empty one if a token comes next before which nothing is written. -/
def upTo (tokens : List Token) (read : Compose Node) : Compose Node := do
  if ← seesAny tokens then return .empty else read

/-- A node of which only an anchor or a tag is written. -/
def bare (properties : Properties) : Compose Node :=
  if properties.anchor.isSome || properties.tag.isSome then return .empty properties else failure

mutual

/-- Reads a node.  Only with `block` may it be written by indentation, and only with `level` may
    the entries of a sequence stand at the column of the mapping around them. -/
def node (block level : Bool) : Nat → Compose Node
  | 0 => failure
  | fuel + 1 => do
    if let some (.alias name) ← peek then
      skip
      match (← get).anchors.lookup name with
      | some number => return .alias number
      | none => failure
    else
      let properties ← properties
      match ← peek with
      | some .blockEntry =>
        -- entries at the column of a mapping are not in a block of their own
        if level then return .sequence properties (← levelItems fuel)
        else bare properties
      | some (.scalar text plain) =>
        skip
        -- a mark alone is no tag of a scalar
        let tag := if properties.tag == some "!" then none else properties.tag
        return .scalar { properties with tag := tag } text plain
      | some .flowSequenceStart =>
        skip
        return .sequence properties (← flowItems true fuel)
      | some .flowMappingStart =>
        skip
        return .mapping properties (← flowEntries true fuel)
      | some .blockSequenceStart =>
        if block then
          skip
          return .sequence properties (← blockItems fuel)
        else bare properties
      | some .blockMappingStart =>
        if block then
          skip
          return .mapping properties (← blockEntries fuel)
        else bare properties
      | _ => bare properties

/-- The items of a sequence in a block of its own. -/
def blockItems : Nat → Compose (List Node)
  | 0 => failure
  | fuel + 1 => do
    if ← take .blockEntry then
      let item ← upTo [.blockEntry, .blockEnd] (node true false fuel)
      return item :: (← blockItems fuel)
    else if ← take .blockEnd then return []
    else failure

/-- The items of a sequence at the column of the mapping around it. -/
def levelItems : Nat → Compose (List Node)
  | 0 => failure
  | fuel + 1 => do
    if ← take .blockEntry then
      let item ← upTo [.blockEntry, .key, .value, .blockEnd] (node true false fuel)
      return item :: (← levelItems fuel)
    else return []

/-- The entries of a mapping written by indentation. -/
def blockEntries : Nat → Compose (List (Node × Node))
  | 0 => failure
  | fuel + 1 => do
    if ← take .key then
      let key ← upTo [.key, .value, .blockEnd] (node true true fuel)
      let value ← if ← take .value then upTo [.key, .value, .blockEnd] (node true true fuel)
        else pure .empty
      return (key, value) :: (← blockEntries fuel)
    else if ← take .blockEnd then return []
    else failure

/-- The items of a sequence in brackets.  A key among them makes a mapping of one entry. -/
def flowItems (first : Bool) : Nat → Compose (List Node)
  | 0 => failure
  | fuel + 1 => do
    if ← take .flowSequenceEnd then return []
    if !first then
      guard (← take .flowEntry)
    -- a comma may stand before the closing bracket
    if ← take .flowSequenceEnd then return []
    let item ← if ← take .key then do
        -- the token itself is dropped, a colon as well
        let key ← if ← seesAny [.value, .flowEntry, .flowSequenceEnd] then do skip; pure .empty
          else node false false fuel
        let value ← if ← take .value then
            upTo [.flowEntry, .flowSequenceEnd] (node false false fuel)
          else pure .empty
        pure (.mapping {} [(key, value)])
      else node false false fuel
    return item :: (← flowItems false fuel)

/-- The entries of a mapping in braces. -/
def flowEntries (first : Bool) : Nat → Compose (List (Node × Node))
  | 0 => failure
  | fuel + 1 => do
    if ← take .flowMappingEnd then return []
    if !first then
      guard (← take .flowEntry)
    -- a comma may stand before the closing brace
    if ← take .flowMappingEnd then return []
    let entry ← if ← take .key then do
        let key ← upTo [.value, .flowEntry, .flowMappingEnd] (node false false fuel)
        let value ← if ← take .value then
            upTo [.flowEntry, .flowMappingEnd] (node false false fuel)
          else pure .empty
        pure (key, value)
      else do
        let key ← node false false fuel
        pure (key, .empty)
    return entry :: (← flowEntries false fuel)

end

/-! ## Documents -/

/-- Reads directives and the marker behind them.  Only versions 1.1 and 1.2 are known, and no
    directive may be repeated. -/
def directives (version : Bool) (handles : List (String × String)) :
    List Token → Option (List (String × String) × List Token)
  | .versionDirective major minor :: rest =>
    if !version && major == 1 && (minor == 1 || minor == 2) then directives true handles rest
    else none
  | .tagDirective handle stem :: rest =>
    if (handles.lookup handle).isSome then none
    else directives version ((handle, stem) :: handles) rest
  | .documentStart :: rest => some (handles, rest)
  | _ => none

/-- The handles that need no directive. -/
def commonHandles : List (String × String) := [("!", "!"), ("!!", "tag:yaml.org,2002:")]

/-- Reads the one document of a text.  An empty text has no document at all. -/
def document? (tokens : List Token) : Option (Option Node) := do
  if tokens.isEmpty then return none
  -- fuel goes down with each reader that is entered, a few for each token
  let fuel := 4 * tokens.length + 4
  let marked := tokens.head?.any fun token =>
    match token with
    | .versionDirective .. | .tagDirective .. | .documentStart => true
    | _ => false
  let (root, final) ←
    if marked then do
      let (handles, rest) ← directives false [] tokens
      -- a document of which only the marker is written
      let blank : Bool := match rest.head? with
        | none | some (.versionDirective ..) | some (.tagDirective ..) => true
        | some token => token == .documentStart || token == .documentEnd
      let start : Composer := ⟨rest, handles ++ commonHandles, []⟩
      if blank then pure (.empty, start) else (node true false fuel).run start
    else (node true false fuel).run ⟨tokens, commonHandles, []⟩
  -- a second document is refused
  if final.tokens.all (· == .documentEnd) then return some root else none

end Compose

/-- A document of a text: its node, with what aliases in it stand for. -/
structure Document where
  root : Node
  /-- The nodes that bear an anchor, the last of them first. -/
  anchored : List (Nat × Node)

namespace Document

/-- The document of a node. -/
def ofNode (root : Node) : Document := ⟨root, root.anchored.reverse⟩

/-- Reads the one document of a text, if the text is well formed; an empty text has none. -/
def read? (text : String) : Option (Option Document) := do
  let tokens ← scan? text
  let root ← Compose.document? tokens
  return root.map ofNode

/-- What a node stands for, and whether it is an alias. -/
def follow? (document : Document) : Node → Option (Node × Bool)
  | .alias number => (document.anchored.lookup number).map (·, true)
  | node => some (node, false)

end Document

end Sift.Yaml
