import CqlSchema.Yaml.Token.Reader
import CqlSchema.Yaml.Node

/-! The tokens of a YAML document read as a tree of nodes. The readers share one bound on the number
of their calls; each takes a token, or is called by one that does. -/
namespace CqlSchema.Yaml

structure NodeReader.State where
  tokens : List Token
  /-- What the handles of tags stand for. -/
  handles : List (String × String) := []
  /-- The number of each name of an anchor, the last defined first. -/
  names : List (String × Nat) := []
  document : Document := { root := none }

/-- Reading from the tokens, which fails if they are not well-formed. -/
abbrev NodeReader := StateT NodeReader.State Option

namespace NodeReader

def fail {α : Type} : NodeReader α := fun _ => none

def peek : NodeReader Token := do
  match (← get).tokens with
  | [] => fail
  | token :: _ => pure token

def skip : NodeReader Unit := modify fun state => { state with tokens := state.tokens.drop 1 }

def expect (token : Token) : NodeReader Unit := do
  if (← peek) == token then skip else fail

def accept (token : Token) : NodeReader Bool := do
  if (← peek) == token then do skip; pure true
  else pure false

def count (n : Nat) : NodeReader Unit := modify fun state =>
  { state with document := { state.document with size := state.document.size + n } }

def nameCount (state : State) : Nat := (state.names.map (·.1)).eraseDups.length

/-- Gives the anchor to the definition that starts here, and that definition its number. -/
def define (name : String) : NodeReader Nat := do
  let state ← get
  let anchor := nameCount state
  let definition := state.document.anchors.length
  set { state with
    names := (name, anchor) :: state.names
    document := { state.document with
      anchors := (anchor, definition) :: state.document.anchors } }
  pure definition

def conclude (definition : Option Nat) (node : Node) : NodeReader Node := do
  if let some number := definition then
    modify fun state => { state with
      document := { state.document with
        definitions := (number, node) :: state.document.definitions } }
  pure node

def resolveTag (handle suffix : String) : NodeReader String := do
  if handle.isEmpty then pure suffix
  else match (← get).handles.lookup handle with
    | some replacement => pure (replacement ++ suffix)
    | none => fail

def properties : NodeReader (Option String × Option String) := do
  match ← peek with
  | .anchor name =>
    skip
    match ← peek with
    | .tag handle suffix =>
      skip
      pure (some name, some (← resolveTag handle suffix))
    | _ => pure (some name, none)
  | .tag handle suffix =>
    skip
    match ← peek with
    | .anchor name =>
      skip
      pure (some name, some (← resolveTag handle suffix))
    | _ => pure (none, some (← resolveTag handle suffix))
  | _ => pure (none, none)

def scalarNode (text : String) (style : ScalarStyle) (tag : Option String) : Node :=
  .scalar ⟨text, style, if tag == some "!" then none else tag⟩

/-- A node where `isNode` holds of the next token, else an empty one. -/
def nodeOrEmpty (isNode : Token → Bool) (node : NodeReader Node) : NodeReader Node := do
  if isNode (← peek) then node
  else do
    count 1
    pure (Node.empty none)

def startsItem (token : Token) : Bool := token != .blockEntry && token != .blockEnd

def startsEntry (token : Token) : Bool :=
  token != .key && token != .value && token != .blockEnd

def startsLooseItem (token : Token) : Bool := startsEntry token && token != .blockEntry

def startsFlowEntry (token : Token) : Bool :=
  token != .value && token != .flowEntry && token != .flowMappingEnd

def startsFlowValue (token : Token) : Bool := token != .flowEntry && token != .flowMappingEnd

def startsPairValue (token : Token) : Bool := token != .flowEntry && token != .flowSequenceEnd

mutual

/-- A node. In a block it may be a list or map by its indentation, and where `loose` holds a list
without an indentation of its own. -/
def node (inBlock loose : Bool) : Nat → NodeReader Node
  | 0 => fail
  | fuel + 1 => do
    match ← peek with
    | .alias name =>
      skip
      count 1
      match (← get).names.lookup name with
      | some anchor => pure (.alias anchor)
      | none => fail
    | _ => do
      let (anchor, tag) ← properties
      let token ← peek
      let start (n : Nat) : NodeReader (Option Nat) := do
        count n
        match anchor with
        | some name => some <$> define name
        | none => pure none
      match token with
      | .scalar text style =>
        skip
        let definition ← start 1
        conclude definition (scalarNode text style tag)
      | .flowSequence =>
        skip
        let definition ← start 2
        let items ← if ← accept .flowSequenceEnd then pure [] else flowItems fuel
        conclude definition (.sequence tag items)
      | .flowMapping =>
        skip
        let definition ← start 2
        let entries ← if ← accept .flowMappingEnd then pure [] else flowEntries fuel
        conclude definition (.mapping tag entries)
      | .blockEntry =>
        if loose then
          let definition ← start 2
          let items ← looseItems fuel
          conclude definition (.sequence tag items)
        else bare start anchor tag
      | .blockSequence =>
        if inBlock then
          skip
          let definition ← start 2
          let items ← blockItems fuel
          conclude definition (.sequence tag items)
        else bare start anchor tag
      | .blockMapping =>
        if inBlock then
          skip
          let definition ← start 2
          let entries ← blockEntries fuel
          conclude definition (.mapping tag entries)
        else bare start anchor tag
      | _ => bare start anchor tag
where
  /-- An anchor or a tag without a node behind it belongs to an empty scalar. -/
  bare (start : Nat → NodeReader (Option Nat)) (anchor tag : Option String) : NodeReader Node := do
    if anchor.isSome || tag.isSome then
      let definition ← start 1
      conclude definition (Node.empty tag)
    else fail

def blockItems : Nat → NodeReader (List Node)
  | 0 => fail
  | fuel + 1 => do
    if ← accept .blockEntry then
      let item ← nodeOrEmpty startsItem (node true false fuel)
      return item :: (← blockItems fuel)
    else
      expect .blockEnd
      pure []

def looseItems : Nat → NodeReader (List Node)
  | 0 => fail
  | fuel + 1 => do
    if ← accept .blockEntry then
      let item ← nodeOrEmpty startsLooseItem (node true false fuel)
      return item :: (← looseItems fuel)
    else pure []

def blockEntries : Nat → NodeReader (List (Node × Node))
  | 0 => fail
  | fuel + 1 => do
    if ← accept .key then
      let name ← nodeOrEmpty startsEntry (node true true fuel)
      let value ← if ← accept .value then nodeOrEmpty startsEntry (node true true fuel)
        else nodeOrEmpty (fun _ => false) fail
      return (name, value) :: (← blockEntries fuel)
    else
      expect .blockEnd
      pure []

/-- An item of a list in brackets and those behind it, up to the closing bracket. An entry of a map
may stand for a map with this one entry. -/
def flowItems : Nat → NodeReader (List Node)
  | 0 => fail
  | fuel + 1 => do
    let item ← if ← accept .key then singlePair fuel else node false false fuel
    if ← accept .flowEntry then
      if ← accept .flowSequenceEnd then pure [item]
      else return item :: (← flowItems fuel)
    else
      expect .flowSequenceEnd
      pure [item]

def singlePair : Nat → NodeReader Node
  | 0 => fail
  | fuel + 1 => do
    count 2
    let name ← if startsPairValue (← peek) && (← peek) != .value then node false false fuel
      else do
        skip
        nodeOrEmpty (fun _ => false) fail
    let value ← if ← accept .value then nodeOrEmpty startsPairValue (node false false fuel)
      else nodeOrEmpty (fun _ => false) fail
    pure (.mapping none [(name, value)])

/-- An entry of a map in brackets and those behind it, up to the closing bracket. -/
def flowEntries : Nat → NodeReader (List (Node × Node))
  | 0 => fail
  | fuel + 1 => do
    let entry ← if ← accept .key then do
        let name ← nodeOrEmpty startsFlowEntry (node false false fuel)
        let value ← if ← accept .value then nodeOrEmpty startsFlowValue (node false false fuel)
          else nodeOrEmpty (fun _ => false) fail
        pure (name, value)
      else do
        let name ← node false false fuel
        let value ← nodeOrEmpty (fun _ => false) fail
        pure (name, value)
    if ← accept .flowEntry then
      if ← accept .flowMappingEnd then pure [entry]
      else return entry :: (← flowEntries fuel)
    else
      expect .flowMappingEnd
      pure [entry]

end

/-! ## Documents -/

def knownHandles : List (String × String) := [("!", "!"), ("!!", "tag:yaml.org,2002:")]

/-- The directives before a document: at most one version, which must be known, and each handle at
most once. -/
def directives (versioned : Bool) (handles : List (String × String)) : Nat → NodeReader Unit
  | 0 => fail
  | fuel + 1 => do
    match ← peek with
    | .version major minor =>
      if versioned || major != 1 || (minor != 1 && minor != 2) then fail
      else
        skip
        directives true handles fuel
    | .tagHandle handle replacement =>
      if (handles.lookup handle).isSome then fail
      else
        skip
        directives versioned (handles ++ [(handle, replacement)]) fuel
    | _ => modify fun state => { state with handles := handles ++ knownHandles }

def endsDocument : Token → Bool
  | .version .. | .tagHandle .. | .documentStart | .documentEnd | .streamEnd => true
  | _ => false

def isDirective : Token → Bool
  | .version .. | .tagHandle .. => true
  | _ => false

/-- The root of the one document, if there is a document at all. Only the first document needs no
mark; a second one is refused. -/
def roots (fuel : Nat) : NodeReader (Option Node) := do
  let root ← match ← peek with
    | .streamEnd => pure none
    | token =>
      if isDirective token || token == .documentStart then explicit
      else do
        directives false [] fuel
        some <$> node true false fuel
  skipEnds fuel
  if ← atEnd then pure root else fail
where
  atEnd : NodeReader Bool := return (← peek) == .streamEnd
  skipEnds : Nat → NodeReader Unit
    | 0 => fail
    | fuel + 1 => do if ← accept .documentEnd then skipEnds fuel
  explicit : NodeReader (Option Node) := do
    directives false [] fuel
    expect .documentStart
    if endsDocument (← peek) then
      count 1
      pure (some (Node.empty none))
    else some <$> node true false fuel

end NodeReader

def Document.ofTokens? (tokens : List Token) : Option Document := do
  let (root, state) ← (NodeReader.roots (2 * tokens.length + 2)).run { tokens }
  some { state.document with root }

/-- The document of a text, if it is well-formed and there is no other document behind it. -/
def Document.ofText? (text : Text) : Option Document := do Document.ofTokens? (← tokens? text)

end CqlSchema.Yaml
