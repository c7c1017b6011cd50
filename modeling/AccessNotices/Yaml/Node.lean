import AccessNotices.Yaml.Tag
import AccessNotices.Yaml.Token
/-!
The nodes of a YAML document: scalars, sequences and mappings, as the tokens nest them.

Whatever may be left out is an empty plain scalar. A sequence that is the value of a key may have
its hyphens at the column of the key; it has no start and end tokens of its own then. An alias
stands for the node with its anchor, and inside that node for the node around. A mapping holds the
entries of its merge keys in front of its own (`mergedEntries`).

A reader looks at a token when it needs it and no sooner, so that of two problems the first is
found.
-/

namespace AccessNotices.Yaml

inductive Node where
  | scalar (tag : Tag) (content : Content)
  | sequence (tag : Tag) (items : List Node)
  | mapping (tag : Tag) (entries : List (Node × Node))
  /-- A mapping with a merge key that gives nothing to merge. -/
  | unmergeable (tag : Tag)
  /-- The node around, a mapping or a sequence, which has the anchor of an alias. -/
  | enclosing (isMapping : Bool)

namespace Node

/-- What stands where nothing is written. -/
def empty : Node := .scalar .null (.chars [])

instance : Inhabited Node := ⟨empty⟩

def tag : Node → Tag
  | scalar t _ => t
  | sequence t _ => t
  | mapping t _ => t
  | unmergeable t => t
  | enclosing isMapping => if isMapping then .mapping else .sequence

/-! ### Merging -/

/-- The entries of a mapping; none for a mapping around, whose entries are there anyway. Nothing for
any other node. -/
def entries? : Node → Option (List (Node × Node))
  | mapping _ entries => some entries
  | enclosing true => some []
  | _ => none

/-- The entries that a merge key gives: those of a mapping, or those of a sequence of mappings, the
last one first. -/
def mergeable? : Node → Option (List (Node × Node))
  | sequence _ items => (items.mapM entries?).map fun parts => parts.reverse.flatten
  | enclosing _ => some []
  | node => node.entries?

/-- Entries with those of the merge keys put in front, and the merge keys left out. -/
def mergedEntries (entries : List (Node × Node)) : Option (List (Node × Node)) := do
  let merges := entries.filter fun e => e.1.tag = .merge
  let parts ← merges.mapM fun e => e.2.mergeable?
  some (parts.flatten ++ entries.filter fun e => e.1.tag ≠ .merge)

def ofEntries (tag : Tag) (entries : List (Node × Node)) : Node :=
  match mergedEntries entries with
  | some entries => .mapping tag entries
  | none => .unmergeable tag

/-! ### Reading tokens -/

/-- What is left of the tokens, the nodes with anchors so far, and what the handles of tags stand
for. -/
structure Source where
  tokens : List Token
  anchors : List (List Char × Node)
  handles : List (List Char × List Char)

abbrev Reader := StateT Source (Except Problem)

namespace Reader

/-- The next token; nothing at the end. -/
def head : Reader (Option Token) := fun source =>
  match source.tokens with
  | [] => .ok (none, source)
  | .broken p :: _ => .error p
  | t :: _ => .ok (some t, source)

/-- The next token is taken away. -/
def skip : Reader Unit :=
  modify fun source => { source with tokens := source.tokens.tail }

/-- There is something wrong here. -/
def fail {α : Type} (p : Problem) : Reader α :=
  throw p

def nodeReferred (name : List Char) : Reader Node := do
  match (← get).anchors.lookup name with
  | none => fail .unknownAlias
  | some node => return node

/-- A node with an anchor starts; no node before may have had it. An alias inside it stands for the
node around. -/
def openAnchor (anchor : Option (List Char)) (isMapping : Bool) : Reader Unit := do
  match anchor with
  | none => return
  | some name =>
    if ((← get).anchors.lookup name).isSome then fail .repeatedAnchor
    modify fun source => { source with anchors := (name, enclosing isMapping) :: source.anchors }

def closeAnchor (anchor : Option (List Char)) (node : Node) : Reader Node := do
  match anchor with
  | none => return node
  | some name =>
    modify fun source => { source with anchors := (name, node) :: source.anchors }
    return node

def beginningOf (handle : List Char) : Reader (List Char) := do
  match (← get).handles.lookup handle with
  | some beginning => return beginning
  | none => fail .unknownHandle

end Reader

open Reader

/-! ### Properties -/

/-- What is written in front of a node: its anchor, and its whole tag. -/
structure Properties where
  anchor : Option (List Char)
  tag : Option (List Char)
  deriving DecidableEq, Repr

namespace Properties

/-- Is anything written in front of the node? -/
def isEmpty (p : Properties) : Bool :=
  p.anchor.isNone && p.tag.isNone

def openTag : List Char := ['!']

/-- The tag that is written in front of a node, unless it leaves open what the node is. -/
def written? (p : Properties) : Option Tag :=
  match p.tag with
  | none => none
  | some s => if s = openTag then none else some (.ofText s)

/-- The tag of a scalar. One that is not plain is a text, unless its tag leaves that open. -/
def scalarTag (p : Properties) (content : Content) (plain : Bool) : Tag :=
  p.written?.getD (if plain || p.tag.isSome then .ofSpelling content.text else .string)

end Properties

def anchorBehindTag : Reader (Option (List Char)) := do
  match ← head with
  | some (.anchor name) => skip; return some name
  | _ => return none

def wholeTag (handle : Option (List Char)) (suffix : List Char) : Reader (List Char) := do
  match handle with
  | none => return suffix
  | some handle => return (← beginningOf handle) ++ suffix

/-- An anchor and a tag, in either order, if they are there. -/
def properties : Reader Properties := do
  match ← head with
  | some (.anchor name) =>
    skip
    match ← head with
    | some (.tag handle suffix) => skip; return ⟨some name, some (← wholeTag handle suffix)⟩
    | _ => return ⟨some name, none⟩
  | some (.tag handle suffix) =>
    skip
    let anchor ← anchorBehindTag
    return ⟨anchor, some (← wholeTag handle suffix)⟩
  | _ => return ⟨none, none⟩

/-! ### Nodes -/

/-- Where a node stands. -/
inductive Place where
  /-- Between brackets. -/
  | flow
  /-- In a block, but not behind a key. -/
  | block
  /-- Behind a key or a colon of a block mapping. -/
  | entry
  deriving DecidableEq, Repr

mutual

def node (fuel : Nat) (place : Place) : Reader Node :=
  match fuel with
  | 0 => fail .ungrammatical
  | fuel + 1 => do
    match ← head with
    | some (.reference name) => skip; nodeReferred name
    | _ => nodeWith fuel place (← properties)

def nodeWith (fuel : Nat) (place : Place) (p : Properties) : Reader Node :=
  match fuel with
  | 0 => fail .ungrammatical
  | fuel + 1 => do
    match ← head, place with
    | some (.scalar content plain), _ =>
      skip
      openAnchor p.anchor false
      closeAnchor p.anchor (.scalar (p.scalarTag content plain) content)
    | some .flowSequenceStart, _ =>
      openAnchor p.anchor false
      skip
      closeAnchor p.anchor (.sequence (p.written?.getD .sequence) (← flowItems fuel))
    | some .flowMappingStart, _ =>
      openAnchor p.anchor true
      skip
      closeAnchor p.anchor (.ofEntries (p.written?.getD .mapping) (← flowEntries fuel))
    | some .blockSequenceStart, .block | some .blockSequenceStart, .entry =>
      openAnchor p.anchor false
      skip
      closeAnchor p.anchor (.sequence (p.written?.getD .sequence) (← blockItems fuel))
    | some .blockMappingStart, .block | some .blockMappingStart, .entry =>
      openAnchor p.anchor true
      skip
      closeAnchor p.anchor (.ofEntries (p.written?.getD .mapping) (← blockEntries fuel))
    | some .entry, .entry =>
      openAnchor p.anchor false
      closeAnchor p.anchor (.sequence (p.written?.getD .sequence) (← looseItems fuel))
    | _, _ =>
      if p.isEmpty then fail .ungrammatical
      openAnchor p.anchor false
      closeAnchor p.anchor (.scalar (p.scalarTag (.chars []) p.tag.isNone) (.chars []))

/-- The node that may start here; nothing is written if one of the given tokens comes first, or
none. -/
def nodeOrEmpty (fuel : Nat) (place : Place) (ends : List Token) : Reader Node :=
  match fuel with
  | 0 => fail .ungrammatical
  | fuel + 1 => do
    match ← head with
    | none => return empty
    | some t => if ends.contains t then return empty else node fuel place

def blockItems (fuel : Nat) : Reader (List Node) :=
  match fuel with
  | 0 => fail .ungrammatical
  | fuel + 1 => do
    match ← head with
    | some .entry =>
      skip
      let item ← nodeOrEmpty fuel .block [.entry, .blockEnd]
      return item :: (← blockItems fuel)
    | some .blockEnd => skip; return []
    | _ => fail .ungrammatical

/-- The items of a sequence without start and end. -/
def looseItems (fuel : Nat) : Reader (List Node) :=
  match fuel with
  | 0 => fail .ungrammatical
  | fuel + 1 => do
    match ← head with
    | some .entry =>
      skip
      let item ← nodeOrEmpty fuel .block [.entry, .key, .value, .blockEnd]
      return item :: (← looseItems fuel)
    | _ => return []

def blockEntries (fuel : Nat) : Reader (List (Node × Node)) :=
  match fuel with
  | 0 => fail .ungrammatical
  | fuel + 1 => do
    match ← head with
    | some .key =>
      skip
      let key ← nodeOrEmpty fuel .entry [.key, .value, .blockEnd]
      let value ← valueOrEmpty fuel .entry [.key, .value, .blockEnd]
      return (key, value) :: (← blockEntries fuel)
    | some .blockEnd => skip; return []
    | _ => fail .ungrammatical

def valueOrEmpty (fuel : Nat) (place : Place) (ends : List Token) : Reader Node :=
  match fuel with
  | 0 => fail .ungrammatical
  | fuel + 1 => do
    match ← head with
    | some .value => skip; nodeOrEmpty fuel place ends
    | _ => return empty

/-- The items of a sequence in brackets, up to the closing one. -/
def flowItems (fuel : Nat) : Reader (List Node) :=
  match fuel with
  | 0 => fail .ungrammatical
  | fuel + 1 => do
    match ← head with
    | some .flowSequenceEnd => skip; return []
    | _ =>
      let item ← flowItem fuel
      match ← head with
      | some .comma => skip; return item :: (← flowItems fuel)
      | some .flowSequenceEnd => skip; return [item]
      | _ => fail .ungrammatical

/-- An item of a sequence in brackets: a node, or a mapping of one entry. -/
def flowItem (fuel : Nat) : Reader Node :=
  match fuel with
  | 0 => fail .ungrammatical
  | fuel + 1 => do
    match ← head with
    | some .key =>
      skip
      let key ← nodeOrEmpty fuel .flow [.value, .comma, .flowSequenceEnd]
      let value ← valueOrEmpty fuel .flow [.comma, .flowSequenceEnd]
      return .ofEntries .mapping [(key, value)]
    | _ => node fuel .flow

/-- The entries of a mapping in braces, up to the closing one. -/
def flowEntries (fuel : Nat) : Reader (List (Node × Node)) :=
  match fuel with
  | 0 => fail .ungrammatical
  | fuel + 1 => do
    match ← head with
    | some .flowMappingEnd => skip; return []
    | _ =>
      let entry ← flowEntry fuel
      match ← head with
      | some .comma => skip; return entry :: (← flowEntries fuel)
      | some .flowMappingEnd => skip; return [entry]
      | _ => fail .ungrammatical

/-- An entry of a mapping in braces: a key with its value, or a node without one. -/
def flowEntry (fuel : Nat) : Reader (Node × Node) :=
  match fuel with
  | 0 => fail .ungrammatical
  | fuel + 1 => do
    match ← head with
    | some .key =>
      skip
      let key ← nodeOrEmpty fuel .flow [.value, .comma, .flowMappingEnd]
      let value ← valueOrEmpty fuel .flow [.comma, .flowMappingEnd]
      return (key, value)
    | _ => return (← node fuel .flow, empty)

end

/-! ### Documents -/

/-- What directives say: has a version been given, and what do the handles stand for? -/
structure Preamble where
  versioned : Bool
  handles : List (List Char × List Char)

namespace Preamble

/-- The version of YAML that is read, up to its second number. -/
def majorVersion : Int := 1

def add (preamble : Preamble) : Directive → Except Problem Preamble
  | .version major _ =>
    if preamble.versioned then .error .repeatedDirective
    else if major ≠ majorVersion then .error .unknownVersion
    else .ok { preamble with versioned := true }
  | .handle name beginning =>
    if (preamble.handles.lookup name).isSome then .error .repeatedDirective
    else .ok { preamble with handles := (name, beginning) :: preamble.handles }
  | .reserved => .ok preamble

end Preamble

def directives (fuel : Nat) (preamble : Preamble) : Reader Preamble :=
  match fuel with
  | 0 => fail .ungrammatical
  | fuel + 1 => do
    match ← head with
    | some (.directive d) => skip; directives fuel (← preamble.add d)
    | _ => return preamble

/-- How much fuel reading some tokens takes at most. -/
def enough (tokens : List Token) : Nat :=
  8 * tokens.length + 8

/-- Everything behind the one document; there must not be another. -/
def finish (fuel : Nat) : Reader Unit :=
  match fuel with
  | 0 => fail .ungrammatical
  | fuel + 1 => do
    match ← head with
    | none => return
    | some .documentEnd => skip; finish fuel
    | _ =>
      let _ ← directives fuel ⟨false, []⟩
      match ← head with
      | some .documentStart => fail .severalDocuments
      | _ => fail .ungrammatical

/-- The start of a document, with the directives in front of it. -/
def documentStart (fuel : Nat) : Reader Unit := do
  let preamble ← directives fuel ⟨false, []⟩
  match ← head with
  | some .documentStart =>
    skip
    modify fun source => { source with handles := preamble.handles ++ Tag.builtInHandles }
  | _ => fail .ungrammatical

/-- Tokens that may come first behind the start of a document that holds nothing. -/
def endsDocument : Token → Bool
  | .directive _ => true
  | .documentStart => true
  | .documentEnd => true
  | _ => false

/-- What a document holds, behind its start. -/
def contents (fuel : Nat) : Reader Node := do
  match ← head with
  | none => return empty
  | some t => if endsDocument t then return empty else node fuel .block

/-- The one document; nothing if there is none. Its start may be left out. -/
def document (fuel : Nat) : Reader (Option Node) := do
  match ← head with
  | none => return none
  | some t =>
    let explicit := match t with
      | .directive _ | .documentStart => true
      | _ => false
    if explicit then documentStart fuel
    let root ← if explicit then contents fuel else node fuel .block
    finish fuel
    return some root

/-- The one document of some tokens; nothing if there is none. -/
def ofTokens? (tokens : List Token) : Except Problem (Option Node) :=
  (document (enough tokens)).run' ⟨tokens, [], Tag.builtInHandles⟩

def ofText? (text : List Char) : Except Problem (Option Node) :=
  ofTokens? (Token.ofText text)

end Node

end AccessNotices.Yaml
