import HiveScript.Encoding.Chinese
import HiveScript.Encoding.Japanese
import HiveScript.Encoding.Korean
import HiveScript.Encoding.Shifting
import HiveScript.Encoding.Utf32
import HiveScript.Encoding.Utf7
import HiveScript.Text.Quoted

/-!
# Encodings of streams

A console writes text in an encoding. What the encoding cannot say is written as a backslash
escape, so that writing never fails.

* `Encoding.has`: the encoding can say a point.
* `Encoding.encode`: the octets of a text.
-/

namespace HiveScript

/-- The encodings of East Asia that write each point for itself, in one octet or more. -/
inductive EastAsian where
  | eucJapanese
  | shiftJis
  | windowsJapanese
  | eucKorean
  | windowsKorean
  | johab
  | gb2312
  | gbk
  | gb18030
  | big5
  | windowsBig5
  deriving DecidableEq

/-- The octets of a point. -/
def EastAsian.octets? : EastAsian → Point → Option Bytes
  | eucJapanese => Japanese.eucOctets?
  | shiftJis => Japanese.shiftOctets?
  | windowsJapanese => Japanese.windowsOctets?
  | eucKorean => Korean.eucOctets?
  | windowsKorean => Korean.windowsOctets?
  | johab => Korean.johabOctets?
  | gb2312 => Chinese.gb2312Octets?
  | gbk => Chinese.gbkOctets?
  | gb18030 => Chinese.gb18030Octets?
  | big5 => Chinese.big5Octets?
  | windowsBig5 => Chinese.windowsOctets?

/-- The encodings of consoles. -/
inductive Encoding where
  | charset (c : Charset)
  | eastAsian (e : EastAsian)
  | shifting (e : Shifting)
  /-- UTF-8, after its mark or without one. -/
  | utf8 (marked : Bool)
  | utf16 (order : Utf16.Order) (marked : Bool)
  | utf32 (order : Utf16.Order) (marked : Bool)
  | utf7
  /-- The printable part of ASCII, and escapes for all else. -/
  | escapes
  /-- Latin 1, and escapes for all else. -/
  | rawEscapes
  deriving DecidableEq

/-- A point in printable ASCII; each backslash opens an escape. -/
def Point.spelled (p : Point) : Text :=
  if p = Point.backslash then "\\\\"
  else if p = Point.ofChar '\t' then "\\t"
  else if p = Point.lineFeed then "\\n"
  else if p = Point.carriageReturn then "\\r"
  else if 0x20 ≤ p.val ∧ p.val < 0x7F then [p]
  else p.escape

namespace Encoding

/-- What stands before all text. -/
def mark : Encoding → Bytes
  | utf8 true => Utf8.mark
  | utf16 order true => Utf16.mark order
  | utf32 order true => Utf32.mark order
  | _ => []

/-- The octets of a text of points below 100 (hexadecimal). -/
def narrow (s : Text) : Bytes := s.map fun p => UInt8.ofNat p.val

/-- The octets of one point, if the encoding has it. -/
def octets? (e : Encoding) (p : Point) : Option Bytes :=
  match e with
  | charset c => (c.octet? p).map fun b => [b]
  | utf8 _ => if p.isSurrogate then none else some (Utf8.octets p)
  | utf16 order _ => if p.isSurrogate then none else some (Utf16.encode order [p])
  | utf32 order _ => if p.isSurrogate then none else some (Utf32.octets order p)
  | eastAsian e => e.octets? p
  | shifting e => if e.has p then some (e.encode [p]) else none
  | utf7 => some (Utf7.encode [p])
  | escapes => some (narrow p.spelled)
  | rawEscapes => some (narrow (if p.val < 0x100 then [p] else p.escape))

/-- The encoding has this point. -/
def has (e : Encoding) (p : Point) : Bool := (e.octets? p).isSome

/-- A text with backslash escapes for what the encoding does not have. -/
def escaped (e : Encoding) (s : Text) : Text :=
  s.flatMap fun p => if e.has p then [p] else p.escape

/-- The octets of a text that the encoding has. -/
def encodeExact (e : Encoding) (s : Text) : Bytes :=
  match e with
  | utf7 => Utf7.encode s
  | shifting e => e.encode s
  | e => s.flatMap fun p => (e.octets? p).getD []

/-- The octets of a text, with backslash escapes for what the encoding does not have. -/
def encode (e : Encoding) (s : Text) : Bytes :=
  if s.isEmpty then [] else e.mark ++ e.encodeExact (e.escaped s)

end Encoding

end HiveScript
