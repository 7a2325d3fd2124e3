import HiveScript.Encoding.Grid.Jis0208
import HiveScript.Encoding.Grid.Jis0212

/-!
# Encodings of Japanese

Each has ASCII, katakana of half width and the grid of JIS X 0208, which it writes in a way of its
own.

* `Japanese.eucOctets?`, `Japanese.shiftOctets?`, `Japanese.windowsOctets?`: the octets of a point.
-/

namespace HiveScript.Japanese

/-- The octet of a katakana of half width. -/
def kana? (p : Point) : Option UInt8 :=
  (p.placeIn? 0xFF61 0xFF9F).map fun i => UInt8.ofNat (0xA1 + i)

/-- The yen sign and the overline stand in the places of the backslash and the tilde. -/
def roman? (p : Point) : Option UInt8 :=
  if p = 0xA5 then some 0x5C else if p = 0x203E then some 0x7E else none

/-- A point of one octet: ASCII or one that stands in its place. -/
def single? (p : Point) : Option Bytes :=
  if p.val < 0x80 then some [UInt8.ofNat p.val] else (roman? p).map fun b => [b]

/-- Extended Unix code. Katakana and the grid of JIS X 0212 come after octets that shift to them. -/
def eucOctets? (p : Point) : Option Bytes :=
  single? p
    <|> (kana? p).map (fun b => [0x8E, b])
    <|> Grid.jis0208.octets? .wide p
    <|> (Grid.jis0212.octets? .wide p).map ([0x8F] ++ ·)

/-- The frame of Shift JIS, whose pairs stand around the katakana. -/
def shiftFrame : Frame := ⟨[(0x81, 0x9F), (0xE0, 0xFC)], [(0x40, 0x7E), (0x80, 0xFC)]⟩

def shiftOctets? (p : Point) : Option Bytes :=
  single? p
    <|> (kana? p).map (fun b => [b])
    <|> Grid.jis0208.octets? shiftFrame p

/-- Signs that Windows takes for others of JIS X 0208. -/
def windowsTwins : List (Point × Point) := [
  (0x2225, 0x2016), (0xFF0D, 0x2212), (0xFF5E, 0x301C), (0xFFE0, 0x00A2), (0xFFE1, 0x00A3),
  (0xFFE2, 0x00AC)]

/-- The single octets of Windows that stand for no character. -/
def windowsSingle? (p : Point) : Option UInt8 :=
  if p.val ≤ 0x80 then some (UInt8.ofNat p.val)
  else if p = 0xF8F0 then some 0xA0
  else (p.placeIn? 0xF8F1 0xF8F3).map fun i => UInt8.ofNat (0xFD + i)

/-- Points of users stand in twenty rows after the others. -/
def windowsUser? (p : Point) : Option Bytes :=
  (p.placeIn? 0xE000 0xE757).map fun i => shiftFrame.octets (94 * 94 + i)

def windowsOctets? (p : Point) : Option Bytes :=
  (windowsSingle? p).map (fun b => [b])
    <|> (kana? p).map (fun b => [b])
    <|> Grid.jis0208.octets? shiftFrame ((windowsTwins.lookup p).getD p)
    <|> Grid.windowsJapanese.octets? shiftFrame p
    <|> windowsUser? p

end HiveScript.Japanese
