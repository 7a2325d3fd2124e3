import HiveScript.Yaml.Tag
import HiveScript.Yaml.Tokens

/-!
# Nodes of a document

The tokens of a text make up one document at most, whose root is a node: a scalar, a sequence or a
mapping of nodes. An alias stands for the node with its anchor.

* `Yaml.Node`: nodes with their tags and places.
* `Yaml.Node.ofText`: the root of a text; a text without document has none.
-/

namespace HiveScript.Yaml

/-- A node, its kind, and where it begins. -/
inductive Node where
  | scalar (tag : Tag) (mark : Mark) (s : Text)
  | sequence (tag : Tag) (mark : Mark) (items : List Node)
  | mapping (tag : Tag) (mark : Mark) (entries : List (Node × Node))

namespace Node

def tag : Node → Tag
  | scalar t _ _ => t
  | sequence t _ _ => t
  | mapping t _ _ => t

def mark : Node → Mark
  | scalar _ m _ => m
  | sequence _ m _ => m
  | mapping _ m _ => m

/-- The name of the form of a node. -/
def form : Node → Text
  | scalar .. => "scalar"
  | sequence .. => "sequence"
  | mapping .. => "mapping"

/-- What stands where nothing is written. -/
def empty (m : Mark) : Node := scalar .null m []

end Node

/-! ## Composing -/

/-- What nodes are composed from. -/
structure Source where
  tokens : Tokens
  /-- The handles of tags, and what they stand for. -/
  handles : List (Text × Text)
  /-- The anchors so far, where their nodes begin, and the nodes that are complete. -/
  anchors : List (Text × Mark × Option Node)

/-- Composing goes on, or meets a problem. -/
abbrev Composing := StateT Source (Except Problem)

namespace Composing

/-- The next token. -/
def peek : Composing Token := do
  let tokens := (← get).tokens
  match tokens.ready with
  | t :: _ => return t
  | [] =>
    match tokens.ending with
    | .ok t => return t
    | .error p => throw p

def peekKind : Composing Token.Kind := return (← peek).kind

/-- Takes the next token. -/
def take : Composing Token := do
  let t ← peek
  modify fun s => { s with tokens.ready := s.tokens.ready.tail }
  return t

/-- The next token is one of these kinds. -/
def isNext (kinds : List Token.Kind) : Composing Bool := return kinds.contains (← peekKind)

/-- Another token was wanted here. -/
def failToken (context : Option (Activity × Option Mark)) (wanted : Wanted) : Composing α := do
  let t ← peek
  throw (.misfit context (.token wanted t.name) t.start)

/-! ## Properties -/

/-- The properties of a node: where they begin, an anchor, and a tag with its place. -/
structure Properties where
  start : Option Mark
  anchor : Option Text
  tag : Option ((Option Text × Text) × Mark)

/-- Takes an anchor, if there is one. -/
def takeAnchor : Composing (Option (Text × Mark)) := do
  match ← peekKind with
  | .anchor name => return some (name, (← take).start)
  | _ => return none

/-- Takes a tag, if there is one. -/
def takeTag : Composing (Option ((Option Text × Text) × Mark)) := do
  match ← peekKind with
  | .tag handle address => return some ((handle, address), (← take).start)
  | _ => return none

/-- Takes an anchor and a tag in any order. -/
def takeProperties : Composing Properties := do
  match ← takeAnchor with
  | some (name, m) => return ⟨some m, some name, ← takeTag⟩
  | none =>
    match ← takeTag with
    | some t => return ⟨some t.2, (← takeAnchor).map (·.1), some t⟩
    | none => return ⟨none, none, none⟩

/-- The whole address of a tag. -/
def addressOf (p : Properties) : Composing (Option Text) := do
  match p.tag with
  | none => return none
  | some ((none, address), _) => return some address
  | some ((some handle, address), m) =>
    match (← get).handles.find? fun h => h.1 = handle with
    | some h => return some (h.2 ++ address)
    | none => throw (.misfit (some (.node, p.start)) (.undefinedHandle handle) m)

/-- The kind of a collection with a tag, which is its usual kind if the tag says nothing. -/
def kindOf (address : Option Text) (usual : Tag) : Tag :=
  match address with
  | none => usual
  | some a => if a = "!" then usual else .ofAddress a

/-! ## Anchors -/

/-- The node of an alias. -/
def aliased (name : Text) (m : Mark) : Composing Node := do
  match (← get).anchors.find? fun a => a.1 = name with
  | some (_, _, some n) => return n
  | some (_, _, none) => throw (.misfit none .recursiveNode m)
  | none => throw (.misfit none (.undefinedAlias name) m)

/-- Notes the anchor of a node that begins, which has to be new. -/
def beginAnchored (anchor : Option Text) (m : Mark) : Composing Unit := do
  if let some name := anchor then
    match (← get).anchors.find? fun a => a.1 = name with
    | some (_, first, _) =>
      throw (.misfit (some (.firstAnchor name, some first)) .secondAnchor m)
    | none => modify fun s => { s with anchors := (name, m, none) :: s.anchors }

/-- Notes the node of an anchor. -/
def finishAnchored (anchor : Option Text) (n : Node) : Composing Node := do
  if let some name := anchor then
    modify fun s => { s with anchors := s.anchors.map fun a =>
      if a.1 = name then (name, a.2.1, some n) else a }
  return n

/-! ## Nodes -/

/-- How deep nodes may stand inside of each other. -/
def deepest : Nat := 487

/-- The text is too deep. -/
def tooDeep : Problem := .failure (.tooDeep [])

/-- What may follow a sign in a block mapping when nothing is written after the sign. -/
def afterBlockSign : List Token.Kind := [.key, .value, .blockEnd]

mutual

/-- Composes the node that begins here. In a block, collections in block style may begin, and under
a key also a sequence that is not indented. -/
def node (block hanging : Bool) : Nat → Nat → Composing Node
  | 0, _ => throw tooDeep
  | fuel + 1, depth => do
    if deepest < depth then throw tooDeep
    match ← peekKind with
    | .reference name =>
      let t ← take
      aliased name t.start
    | _ =>
      let properties ← takeProperties
      let address ← addressOf properties
      let t ← peek
      let start := properties.start.getD t.start
      let anchor := properties.anchor
      let sequence (items : Mark → Composing (List Node)) : Composing Node := do
        beginAnchored anchor start
        finishAnchored anchor (.sequence (kindOf address .sequence) start (← items t.start))
      let mapping (entries : Mark → Composing (List (Node × Node))) : Composing Node := do
        beginAnchored anchor start
        finishAnchored anchor (.mapping (kindOf address .mapping) start (← entries t.start))
      let scalar (isPlain : Bool) (s : Text) : Composing Node := do
        beginAnchored anchor start
        let usual : Tag :=
          if address = none ∧ isPlain ∨ address = some (Text.ofString "!") then .ofPlain s
          else .text
        finishAnchored anchor (.scalar (kindOf address usual) start s)
      match t.kind, block, hanging with
      | .blockEntry, _, true => sequence fun _ => hangingItems fuel (depth + 1)
      | .scalar isPlain s, _, _ =>
        let _ ← take
        scalar isPlain s
      | .flowSequenceStart, _, _ =>
        let _ ← take
        sequence fun m => flowItems m true fuel (depth + 1)
      | .flowMappingStart, _, _ =>
        let _ ← take
        mapping fun m => flowEntries m true fuel (depth + 1)
      | .blockSequenceStart, true, _ =>
        let _ ← take
        sequence fun m => blockItems m fuel (depth + 1)
      | .blockMappingStart, true, _ =>
        let _ ← take
        mapping fun m => blockEntries m fuel (depth + 1)
      | _, _, _ =>
        if anchor.isSome || address.isSome then scalar true []
        else failToken (some (if block then .blockNode else .flowNode, some start)) .nodeContent
termination_by structural fuel => fuel

/-- Composes a node, or an empty one at `m` if one of some tokens follows. -/
def nodeUnless (kinds : List Token.Kind) (m : Mark) (block hanging : Bool) :
    Nat → Nat → Composing Node
  | 0, _ => throw tooDeep
  | fuel + 1, depth => do
    if ← isNext kinds then return .empty m
    else node block hanging fuel depth
termination_by structural fuel => fuel

/-- Composes what follows the sign of a value; without the sign it is empty. -/
def valueUnless (kinds : List Token.Kind) (block : Bool) : Nat → Nat → Composing Node
  | 0, _ => throw tooDeep
  | fuel + 1, depth => do
    if ← isNext [.value] then
      let t ← take
      nodeUnless kinds t.stop block block fuel depth
    else return .empty (← peek).start
termination_by structural fuel => fuel

/-- Composes the items of a sequence that began at `m`. -/
def blockItems (m : Mark) : Nat → Nat → Composing (List Node)
  | 0, _ => throw tooDeep
  | fuel + 1, depth => do
    match ← peekKind with
    | .blockEntry =>
      let t ← take
      let n ← nodeUnless [.blockEntry, .blockEnd] t.stop true false fuel depth
      return n :: (← blockItems m fuel depth)
    | .blockEnd =>
      let _ ← take
      return []
    | _ => failToken (some (.blockSequence, some m)) .blockEnd
termination_by structural fuel => fuel

/-- Composes the items of a sequence that is not indented under its key. -/
def hangingItems : Nat → Nat → Composing (List Node)
  | 0, _ => throw tooDeep
  | fuel + 1, depth => do
    match ← peekKind with
    | .blockEntry =>
      let t ← take
      let n ← nodeUnless (.blockEntry :: afterBlockSign) t.stop true false fuel depth
      return n :: (← hangingItems fuel depth)
    | _ => return []
termination_by structural fuel => fuel

/-- Composes the entries of a mapping that began at `m`. -/
def blockEntries (m : Mark) : Nat → Nat → Composing (List (Node × Node))
  | 0, _ => throw tooDeep
  | fuel + 1, depth => do
    match ← peekKind with
    | .key =>
      let t ← take
      let k ← nodeUnless afterBlockSign t.stop true true fuel depth
      let v ← valueUnless afterBlockSign true fuel depth
      return (k, v) :: (← blockEntries m fuel depth)
    | .blockEnd =>
      let _ ← take
      return []
    | _ => failToken (some (.blockMapping, some m)) .blockEnd
termination_by structural fuel => fuel

/-- Composes the items of a sequence in brackets that began at `m`. -/
def flowItems (m : Mark) (first : Bool) : Nat → Nat → Composing (List Node)
  | 0, _ => throw tooDeep
  | fuel + 1, depth => do
    if ← isNext [.flowSequenceEnd] then
      let _ ← take
      return []
    if !first then
      if ← isNext [.flowEntry] then
        let _ ← take
      else failToken (some (.flowSequence, some m)) .flowSequenceEnd
    match ← peekKind with
    | .key =>
      let t ← take
      let ends : List Token.Kind := [.flowEntry, .flowSequenceEnd]
      let k ← nodeUnless (.value :: ends) t.stop false false fuel (depth + 1)
      let v ← valueUnless ends false fuel (depth + 1)
      return .mapping .mapping t.start [(k, v)] :: (← flowItems m false fuel depth)
    | .flowSequenceEnd =>
      let _ ← take
      return []
    | _ =>
      let n ← node false false fuel depth
      return n :: (← flowItems m false fuel depth)
termination_by structural fuel => fuel

/-- Composes the entries of a mapping in braces that began at `m`. -/
def flowEntries (m : Mark) (first : Bool) : Nat → Nat → Composing (List (Node × Node))
  | 0, _ => throw tooDeep
  | fuel + 1, depth => do
    if ← isNext [.flowMappingEnd] then
      let _ ← take
      return []
    if !first then
      if ← isNext [.flowEntry] then
        let _ ← take
      else failToken (some (.flowMapping, some m)) .flowMappingEnd
    match ← peekKind with
    | .key =>
      let t ← take
      let ends : List Token.Kind := [.flowEntry, .flowMappingEnd]
      let k ← nodeUnless (.value :: ends) t.stop false false fuel depth
      let v ← valueUnless ends false fuel depth
      return (k, v) :: (← flowEntries m false fuel depth)
    | .flowMappingEnd =>
      let _ ← take
      return []
    | _ =>
      let k ← node false false fuel depth
      let v : Node := .empty (← peek).start
      return (k, v) :: (← flowEntries m false fuel depth)
termination_by structural fuel => fuel

end

/-! ## Documents -/

/-- The handles that every document has. -/
def usualHandles : List (Text × Text) := [("!", "!"), ("!!", Tag.standard)]

/-- Takes the directives before a document. The handles that they tell go over the usual ones. -/
def takeDirectives (versioned : Bool) (handles : List (Text × Text)) : Nat → Composing Unit
  | 0 => throw tooDeep
  | fuel + 1 => do
    match ← peekKind with
    | .directive d =>
      let t ← take
      match d with
      | .version major =>
        if versioned then throw (.misfit none .secondVersion t.start)
        if major ≠ 1 then throw (.misfit none .otherVersion t.start)
        takeDirectives true handles fuel
      | .handle name address =>
        if handles.any fun h => h.1 = name then
          throw (.misfit none (.secondHandle name) t.start)
        takeDirectives versioned ((name, address) :: handles) fuel
      | .reserved => takeDirectives versioned handles fuel
    | _ => modify fun s => { s with handles := handles ++ usualHandles }

/-- Takes marks of ends of documents. -/
def takeEnds : Nat → Composing Unit
  | 0 => return ()
  | fuel + 1 => do
    if ← isNext [.documentEnd] then
      let _ ← take
      takeEnds fuel

/-- Takes what is before a document that has a mark; none if the text ends. Gives the place where it
begins. -/
def takeStart (fuel : Nat) : Composing (Option Mark) := do
  takeEnds fuel
  if ← isNext [.endOfText] then return none
  let start := (← peek).start
  takeDirectives false [] fuel
  if !(← isNext [.documentStart]) then failToken none .documentStart
  let _ ← take
  return some start

/-- A document ends before this token. -/
def endsDocument : Token.Kind → Bool
  | .directive _ | .documentStart | .documentEnd | .endOfText => true
  | _ => false

/-- A document with a mark, or the end of the text, begins with this token. -/
def beginsMarked : Token.Kind → Bool
  | .documentEnd => false
  | k => endsDocument k

/-- Composes the root of the first document. -/
def root? (fuel : Nat) : Composing (Option Node) := do
  if beginsMarked (← peekKind) then
    if (← takeStart fuel).isNone then return none
    let t ← peek
    if endsDocument t.kind then return some (.empty t.start)
    else return some (← node true false fuel 1)
  else return some (← node true false fuel 1)

/-- Composes the root of the only document. -/
def document? (fuel : Nat) : Composing (Option Node) := do
  match ← root? fuel with
  | none => return none
  | some n =>
    match ← takeStart fuel with
    | none => return some n
    | some m => throw (.misfit (some (.document, some n.mark)) .secondDocument m)

end Composing

/-- The root of a text. -/
def Node.ofText (s : Text) : Except Problem (Option Node) :=
  let tokens := Tokens.ofText s
  let source : Source := ⟨tokens, Composing.usualHandles, []⟩
  ((Composing.document? (4 * tokens.ready.length + 8)).run source).map (·.1)

end HiveScript.Yaml
