import HiveScript.Yaml.Block
import HiveScript.Yaml.Property
import HiveScript.Yaml.Quoted

/-!
# Tokens of a text

A text is cut into tokens from left to right. Only the colon after a key tells that it is one; until
it is found, or can stand nowhere any more, the tokens from there on are held back. A key that needs
no sign of its own stands on one line and takes up at most 1024 points before its colon.

* `Yaml.Tokens.ofText`: the tokens of a text, and the problem at which they end, if there is one.
-/

namespace HiveScript.Yaml

/-- Tokens, and what follows them: a problem, or the end of the text. -/
structure Tokens where
  ready : List Token
  ending : Except Problem Token

namespace Tokens

/-! ## The state -/

/-- A place where a key may have begun. -/
structure PossibleKey where
  /-- How many tokens stand before it. -/
  number : Nat
  /-- It has to be a key, by its indentation. -/
  isRequired : Bool
  mark : Mark

/-- What is known between two tokens. -/
structure State where
  /-- The tokens so far, last one first. -/
  tokens : List Token
  /-- The column of the innermost block, and of those around it. -/
  indent : Int
  indents : List Int
  /-- Where keys may have begun: in each open flow collection, inner ones first, and in the block
  around all of them. -/
  keys : List (Option PossibleKey)
  /-- A key may begin here. -/
  keyAllowed : Bool

namespace State

def start : State := ⟨[], -1, [], [none], true⟩

/-- Inside of a flow collection. -/
def isFlow (s : State) : Bool := 1 < s.keys.length

/-- The outermost place where a key may have begun. -/
def firstKey? (s : State) : Option PossibleKey := s.keys.reverse.findSome? id

/-- The tokens that are not held back. -/
def ready (s : State) : List Token :=
  let n := (s.firstKey?.map (·.number)).getD s.tokens.length
  s.tokens.reverse.take n

/-- Adds a token. -/
def push (t : Token) (s : State) : State := { s with tokens := t :: s.tokens }

/-- Puts a token after the first `n` ones. -/
def insert (n : Nat) (t : Token) (s : State) : State :=
  let later := s.tokens.length - n
  { s with tokens := s.tokens.take later ++ t :: s.tokens.drop later }

/-- Changes the innermost place where a key may have begun. -/
def setKey (k : Option PossibleKey) (s : State) : State := { s with keys := k :: s.keys.tail }

end State

/-- Cutting goes on, or meets a problem. -/
abbrev Cutting := StateT State Reading

open Reading

def isFlow : Cutting Bool := return (← get).isFlow

/-- Says whether a key may begin here. -/
def allowKey (b : Bool) : Cutting Unit := modify fun s => { s with keyAllowed := b }

/-- Something may not stand here. -/
def refuse (what : Misfit) : Cutting α := do throw (.misfit none what (← mark))

/-- Adds a token that takes up the next `n` points. -/
def cut (n : Nat) (kind : Token.Kind) : Cutting Unit := do
  let start ← mark
  skip n
  let stop ← mark
  modify (State.push ⟨kind, start, stop⟩)

/-- Adds a token whose reading is given. -/
def cutBy (read : Reading Token.Kind) : Cutting Unit := do
  let start ← mark
  let kind ← read
  let stop ← mark
  modify (State.push ⟨kind, start, stop⟩)

/-! ## Keys -/

/-- The most points between the beginning of a key and its colon. -/
def longestKey : Nat := 1024

/-- A place where no key begins after all. -/
def drop (k : PossibleKey) : Cutting Unit := do
  if k.isRequired then fail .simpleKey k.mark .noColon

/-- Drops the places from which on a key would be too long. -/
def dropStale : Cutting Unit := do
  let m ← mark
  let isStale (k : PossibleKey) : Bool :=
    k.mark.line ≠ m.line || longestKey < m.index - k.mark.index
  let keys ← (← get).keys.mapM fun k =>
    match k with
    | none => pure none
    | some k => do
      if isStale k then
        drop k
        return none
      else return some k
  modify fun s => { s with keys }

/-- Drops the innermost place. -/
def dropKey : Cutting Unit := do
  if let some (some k) := (← get).keys.head? then drop k
  modify (State.setKey none)

/-- Notes that a key may begin here. -/
def noteKey : Cutting Unit := do
  let s ← get
  let m ← mark
  if s.keyAllowed then
    dropKey
    modify (State.setKey (some ⟨s.tokens.length, !s.isFlow && s.indent = m.column, m⟩))

/-! ## Indentation -/

/-- Ends the blocks that stand to the right of a column. -/
def unindentFuel (column : Int) (m : Mark) : Nat → State → State
  | 0, s => s
  | fuel + 1, s =>
    if column < s.indent then
      let (indent, indents) : Int × List Int :=
        match s.indents with
        | [] => (-1, [])
        | i :: is => (i, is)
      unindentFuel column m fuel { s.push (.atMark .blockEnd m) with indent, indents }
    else s

def unindent (column : Int) : Cutting Unit := do
  let m ← mark
  modify fun s => if s.isFlow then s else unindentFuel column m (s.indents.length + 1) s

/-- Begins a block at a column, if it stands to the right of the innermost one. -/
def beginAt (column : Nat) : Cutting Bool := do
  let s ← get
  if s.indent < column then
    set { s with indent := column, indents := s.indent :: s.indents }
    return true
  else return false

/-- Begins a block here, if it stands to the right of the innermost one. -/
def beginBlock (kind : Token.Kind) : Cutting Unit := do
  let m ← mark
  if ← beginAt m.column then modify (State.push (.atMark kind m))

/-! ## Tokens -/

/-- Ends what stands before a directive or a mark of a document. -/
def endDocument : Cutting Unit := do
  unindent (-1)
  dropKey
  allowKey false

def directive : Cutting Unit := do
  endDocument
  let start ← mark
  let (d, stop) ← Reading.directive
  modify (State.push ⟨.directive d, start, stop⟩)

def documentMark (kind : Token.Kind) : Cutting Unit := do
  endDocument
  cut 3 kind

def flowStart (kind : Token.Kind) : Cutting Unit := do
  noteKey
  modify fun s => { s with keys := none :: s.keys, keyAllowed := true }
  cut 1 kind

/-- Ends a flow collection, and tells whether there was none. -/
def flowEnd (kind : Token.Kind) : Cutting Bool := do
  dropKey
  let surplus := !(← isFlow)
  modify fun s => { s with keys := s.keys.tail, keyAllowed := false }
  cut 1 kind
  return surplus

def flowEntry : Cutting Unit := do
  allowKey true
  dropKey
  cut 1 .flowEntry

def blockEntry : Cutting Unit := do
  if !(← isFlow) then
    if !(← get).keyAllowed then refuse .sequenceEntry
    beginBlock .blockSequenceStart
  allowKey true
  dropKey
  cut 1 .blockEntry

def key : Cutting Unit := do
  let flow ← isFlow
  if !flow then
    if !(← get).keyAllowed then refuse .mappingKey
    beginBlock .blockMappingStart
  allowKey !flow
  dropKey
  cut 1 .key

/-- The place where a key may have begun is one. -/
def foundKey (k : PossibleKey) : Cutting Unit := do
  modify (State.setKey none)
  modify (State.insert k.number (.atMark .key k.mark))
  if !(← isFlow) then
    if ← beginAt k.mark.column then
      modify (State.insert k.number (.atMark .blockMappingStart k.mark))
  allowKey false

def value : Cutting Unit := do
  match (← get).keys.head?.join with
  | some k => foundKey k
  | none =>
    let flow ← isFlow
    if !flow then
      if !(← get).keyAllowed then refuse .mappingValue
      beginBlock .blockMappingStart
    allowKey !flow
    dropKey
  cut 1 .value

/-- Adds something that may begin a key. -/
def nodePart (read : Reading Token.Kind) : Cutting Unit := do
  noteKey
  allowKey false
  cutBy read

def plainScalar : Cutting Unit := do
  noteKey
  let s ← get
  let start ← mark
  let (text, stop) ← plain s.isFlow (s.indent + 1)
  allowKey ((← mark).line ≠ stop.line)
  modify (State.push ⟨.scalar true text, start, stop⟩)

def blockScalar (fold : Bool) : Cutting Unit := do
  allowKey true
  dropKey
  let parent := (← get).indent
  cutBy do return .scalar false (← block fold parent)

/-! ## Cutting -/

/-- Adds the next token, and tells whether it is the last one that matters. -/
def next : Cutting Bool := do
  let before ← mark
  skipGaps
  let m ← mark
  if m.line ≠ before.line && !(← isFlow) then allowKey true
  dropStale
  unindent m.column
  match ← rest with
  | [] =>
    endDocument
    return true
  | p :: after =>
    let flow ← isFlow
    let text := p :: after
    let is (c : Char) : Bool := p = Point.ofChar c
    if m.column = 0 && is '%' then directive
    else if m.column = 0 && beginsMarker "---" text then documentMark .documentStart
    else if m.column = 0 && beginsMarker "..." text then documentMark .documentEnd
    else if is '[' then flowStart .flowSequenceStart
    else if p = Point.openBrace then flowStart .flowMappingStart
    else if is ']' then return ← flowEnd .flowSequenceEnd
    else if p = Point.closeBrace then return ← flowEnd .flowMappingEnd
    else if is ',' then flowEntry
    else if is '-' && endsAt isGap after then blockEntry
    else if is '?' && (flow || endsAt isGap after) then key
    else if is ':' && (flow || endsAt isGap after) then value
    else if is '*' then nodePart do return .reference (← anchorName .reference)
    else if is '&' then nodePart do return .anchor (← anchorName .anchor)
    else if is '!' then nodePart tag
    else if is '|' && !flow then blockScalar false
    else if is '>' && !flow then blockScalar true
    else if p = Point.apostrophe || p = Point.quotationMark then
      nodePart do return .scalar false (← quoted p)
    else if beginsPlain flow text then plainScalar
    else throw (.misfit (some (.nextToken, none)) (.noToken p) m)
    return false

/-- Cuts a text into tokens. When a problem is met, only those tokens are ready that were not held
back before it. -/
def cutAll : Nat → State → Cursor → Tokens
  | 0, s, c => ⟨s.tokens.reverse, .ok (.atMark .endOfText c.mark)⟩
  | fuel + 1, s, c =>
    match (next.run s).run c with
    | .error p => ⟨s.ready, .error p⟩
    | .ok ((true, s), c) => ⟨s.tokens.reverse, .ok (.atMark .endOfText c.mark)⟩
    | .ok ((false, after), c) =>
      match (dropStale.run after).run c with
      | .error p => ⟨s.ready, .error p⟩
      | .ok (((), after), c) => cutAll fuel after c

/-- The tokens of a text. A byte order mark at its beginning is skipped. -/
def ofText (s : Text) : Tokens :=
  let c : Cursor := ⟨s, ⟨0, 0, 0⟩⟩
  cutAll (s.length + 2) .start (if s.head? = some Point.byteOrderMark then c.advance else c)

end Tokens

end HiveScript.Yaml
