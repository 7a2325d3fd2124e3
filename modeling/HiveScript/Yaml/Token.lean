import HiveScript.Text.Numeral

/-!
# Tokens of YAML

The parts of a YAML text: marks of documents, beginnings and ends of collections, signs of their
parts, scalars and what may stand before them. Where a collection in block style begins and ends is
told by the indentation.

* `Yaml.Mark.text`: a place in a report, by line and column, with the part of the line around it.
* `Yaml.Token`: a token and where it stands.
* `Yaml.Token.name`: a token in reports.
-/

namespace HiveScript.Yaml

/-! ## Marks -/

/-- The points that end a line. -/
def isBreak (p : Point) : Bool :=
  Ranges.has [(0x0A, 0x0A), (0x0D, 0x0D), (0x85, 0x85), (0x2028, 0x2029)] p

/-- A place in a text: the points before it, the lines before it, and the columns before it. -/
structure Mark where
  index : Nat
  line : Nat
  column : Nat
  deriving DecidableEq

namespace Mark

/-- The most points before and after a place that are shown when the line is shown whole. -/
def widest : Nat := 36

/-- How many of them are shown when the line is cut. -/
def cutTo : Nat := 32

/-- What stands for the part of a line that is cut off. -/
def ellipsis : Text := " ... "

/-- The part of the line around a place, and below it a sign under the place. -/
def snippet (document : Text) (m : Mark) : Text :=
  let behind := (document.take m.index).reverse.takeWhile fun p => !isBreak p
  let ahead := (document.drop m.index).takeWhile fun p => !isBreak p
  let before :=
    if widest < behind.length then ellipsis ++ (behind.take cutTo).reverse else behind.reverse
  let after := if widest < ahead.length then ahead.take cutTo ++ ellipsis else ahead
  let margin := List.replicate 4 Point.space
  margin ++ before ++ after ++ [Point.lineFeed] ++ margin ++
    List.replicate before.length Point.space ++ "^"

def text (document : Text) (m : Mark) : Text :=
  "  in \"<unicode string>\", line " ++ Numeral.decimal (m.line + 1) ++ ", column " ++
    Numeral.decimal (m.column + 1) ++ ":\n" ++ m.snippet document

/-- Two marks show the same line and column. -/
def isSamePlace (a b : Mark) : Bool := a.line = b.line && a.column = b.column

end Mark

/-! ## Tokens -/

/-- What is said before a document. -/
inductive Directive where
  | version (major : Nat)
  | handle (name address : Text)
  /-- Means nothing. -/
  | reserved
  deriving DecidableEq

/-- The kinds of tokens. -/
inductive Token.Kind where
  | directive (d : Directive)
  | documentStart
  | documentEnd
  | endOfText
  | blockSequenceStart
  | blockMappingStart
  | blockEnd
  | flowSequenceStart
  | flowSequenceEnd
  | flowMappingStart
  | flowMappingEnd
  | blockEntry
  | flowEntry
  | key
  | value
  | reference (name : Text)
  | anchor (name : Text)
  /-- A tag, perhaps with a handle that stands for the first part of its address. -/
  | tag (handle : Option Text) (address : Text)
  | scalar (isPlain : Bool) (s : Text)
  deriving DecidableEq

/-- A token with its place. -/
structure Token where
  kind : Token.Kind
  start : Mark
  stop : Mark

namespace Token

def Kind.name : Kind → Text
  | directive _ => "<directive>"
  | documentStart => "<document start>"
  | documentEnd => "<document end>"
  | endOfText => "<stream end>"
  | blockSequenceStart => "<block sequence start>"
  | blockMappingStart => "<block mapping start>"
  | blockEnd => "<block end>"
  | flowSequenceStart => "["
  | flowSequenceEnd => "]"
  | flowMappingStart => "\x7b"
  | flowMappingEnd => "\x7d"
  | blockEntry => "-"
  | flowEntry => ","
  | key => "?"
  | value => ":"
  | reference _ => "<alias>"
  | anchor _ => "<anchor>"
  | tag .. => "<tag>"
  | scalar .. => "<scalar>"

def name (t : Token) : Text := t.kind.name

/-- A token that takes up no place. -/
def atMark (kind : Kind) (m : Mark) : Token := ⟨kind, m, m⟩

end Token

end HiveScript.Yaml
