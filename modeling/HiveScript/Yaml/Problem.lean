import HiveScript.Fault.Failure
import HiveScript.Yaml.Token

/-!
# Problems of YAML texts

Why a text has no value: it holds a point that no text may hold, something in it does not fit where
it stands, or a scalar does not denote what it should.

* `Yaml.Problem`: the causes.
* `Yaml.Problem.message`: a problem in words.
-/

namespace HiveScript.Yaml

/-! ## What was read -/

/-- What was read when something did not fit. -/
inductive Activity where
  | simpleKey
  | nextToken
  | directive
  | reference
  | anchor
  | tag
  | tagAddress
  | directiveAddress
  | blockScalar
  | quotedScalar
  | doubleQuotedScalar
  | node
  | blockNode
  | flowNode
  | blockSequence
  | blockMapping
  | flowSequence
  | flowMapping
  /-- The only document of the text. -/
  | document
  /-- An anchor, whose name was there before. -/
  | firstAnchor (name : Text)
  /-- A mapping whose value is made. -/
  | mapping
  deriving DecidableEq

def Activity.text : Activity → Text
  | simpleKey => "while scanning a simple key"
  | nextToken => "while scanning for the next token"
  | directive => "while scanning a directive"
  | reference => "while scanning an alias"
  | anchor => "while scanning an anchor"
  | tag => "while scanning a tag"
  | tagAddress => "while parsing a tag"
  | directiveAddress => "while parsing a directive"
  | blockScalar => "while scanning a block scalar"
  | quotedScalar => "while scanning a quoted scalar"
  | doubleQuotedScalar => "while scanning a double-quoted scalar"
  | node => "while parsing a node"
  | blockNode => "while parsing a block node"
  | flowNode => "while parsing a flow node"
  | blockSequence => "while parsing a block collection"
  | blockMapping => "while parsing a block mapping"
  | flowSequence => "while parsing a flow sequence"
  | flowMapping => "while parsing a flow mapping"
  | document => "expected a single document in the stream"
  | firstAnchor name => "found duplicate anchor " ++ name.quoted ++ "; first occurrence"
  | mapping => "while constructing a mapping"

/-! ## What did not fit -/

/-- What should have stood in the place of something else. -/
inductive Wanted where
  | letterOrDigit
  | digit
  | digitOrPoint
  | digitOrSpace
  | space
  | exclamationMark
  | closingAngle
  | address
  | addressEscape
  | commentOrBreak
  | blockIndicators
  | hexadecimals (count : Nat)
  | documentStart
  | blockEnd
  | nodeContent
  | flowSequenceEnd
  | flowMappingEnd
  deriving DecidableEq

/-- What was wanted, and what introduces the thing that was found. -/
def Wanted.text : Wanted → Text
  | letterOrDigit => "expected alphabetic or numeric character, but found "
  | digit => "expected a digit, but found "
  | digitOrPoint => "expected a digit or '.', but found "
  | digitOrSpace => "expected a digit or ' ', but found "
  | space => "expected ' ', but found "
  | exclamationMark => "expected '!', but found "
  | closingAngle => "expected '>', but found "
  | address => "expected URI, but found "
  | addressEscape => "expected URI escape sequence of 2 hexadecimal numbers, but found "
  | commentOrBreak => "expected a comment or a line break, but found "
  | blockIndicators => "expected chomping or indentation indicators, but found "
  | hexadecimals count =>
    "expected escape sequence of " ++ Numeral.decimal count ++
      " hexadecimal numbers, but found "
  | documentStart => "expected '<document start>', but found "
  | blockEnd => "expected <block end>, but found "
  | nodeContent => "expected the node content, but found "
  | flowSequenceEnd => "expected ',' or ']', but got "
  | flowMappingEnd => "expected ',' or '\x7d', but got "

/-- What does not fit. -/
inductive Misfit where
  /-- Another point was wanted; at the end of the text there is none. -/
  | point (wanted : Wanted) (found : Option Point)
  /-- Another token was wanted. -/
  | token (wanted : Wanted) (found : Text)
  | noColon
  | noToken (p : Point)
  | sequenceEntry
  | mappingKey
  | mappingValue
  | unknownEscape (found : Option Point)
  | documentSeparator
  | endOfText
  | zeroIndentation
  | illAddress
  | secondVersion
  | otherVersion
  | secondHandle (handle : Text)
  | undefinedHandle (handle : Text)
  | undefinedAlias (name : Text)
  | secondDocument
  | secondAnchor
  | recursiveNode
  | unhashableKey
  | mergedNode (found : Text)
  | mergedNodes (found : Text)
  | undefinedTag (tag : Text)
  | node (wanted found : Text)
  deriving DecidableEq

/-- A point in quotes; the end of the text shows as the point zero. -/
def quotedPoint (p : Option Point) : Text := Text.quoted [p.getD Point.nul]

def Misfit.text : Misfit → Text
  | point wanted found => wanted.text ++ quotedPoint found
  | token wanted found => wanted.text ++ found.quoted
  | noColon => "could not find expected ':'"
  | noToken p => "found character " ++ quotedPoint p ++ " that cannot start any token"
  | sequenceEntry => "sequence entries are not allowed here"
  | mappingKey => "mapping keys are not allowed here"
  | mappingValue => "mapping values are not allowed here"
  | unknownEscape found => "found unknown escape character " ++ quotedPoint found
  | documentSeparator => "found unexpected document separator"
  | endOfText => "found unexpected end of stream"
  | zeroIndentation => "expected indentation indicator in the range 1-9, but found 0"
  | illAddress => "invalid URI escape sequence"
  | secondVersion => "found duplicate YAML directive"
  | otherVersion => "found incompatible YAML document (version 1.* is required)"
  | secondHandle handle => "duplicate tag handle " ++ handle.quoted
  | undefinedHandle handle => "found undefined tag handle " ++ handle.quoted
  | undefinedAlias name => "found undefined alias " ++ name.quoted
  | secondDocument => "but found another document"
  | secondAnchor => "second occurrence"
  | recursiveNode => "found unconstructable recursive node"
  | unhashableKey => "found unhashable key"
  | mergedNode found => "expected a mapping for merging, but found " ++ found
  | mergedNodes found =>
    "expected a mapping or list of mappings for merging, but found " ++ found
  | undefinedTag tag => "could not determine a constructor for the tag " ++ tag.quoted
  | node wanted found => "expected a " ++ wanted ++ " node, but found " ++ found

/-! ## Problems -/

/-- Why a text has no value. -/
inductive Problem where
  /-- A text may not hold this point, which stands after `index` others. -/
  | character (p : Point) (index : Nat)
  /-- Something does not fit where it stands. What was read may be told, with the place where it
  began. -/
  | misfit (context : Option (Activity × Option Mark)) (what : Misfit) (mark : Mark)
  /-- A scalar denotes nothing, or the text is too deep. -/
  | failure (f : Failure)
  deriving DecidableEq

/-- A problem in words. The place where something began is left out if it is the place of the
problem. -/
def Problem.message (document : Text) : Problem → Text
  | character p index =>
    "unacceptable character #x" ++ Numeral.padded 16 4 p.val ++
      ": special characters are not allowed\n  in \"<unicode string>\", position " ++
      Numeral.decimal index
  | misfit context what mark =>
    let began : List Text :=
      match context with
      | none => []
      | some (activity, none) => [activity.text]
      | some (activity, some m) =>
        if m.isSamePlace mark then [activity.text] else [activity.text, m.text document]
    Text.join [Point.lineFeed] (began ++ [what.text, mark.text document])
  | failure f => f.message

end HiveScript.Yaml
