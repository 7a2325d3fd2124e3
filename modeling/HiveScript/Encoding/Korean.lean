import HiveScript.Encoding.Grid.Ksx1001

/-!
# Encodings of Korean

The grid of KS X 1001 has the common syllables. An encoding writes the other syllables by their
letters, by their order, or all syllables by their letters.

* `Korean.eucOctets?`, `Korean.windowsOctets?`, `Korean.johabOctets?`: the octets of a point.
-/

namespace HiveScript.Korean

/-- A syllable by the numbers of its letters: the first, the vowel, and the last, with zero for
none. -/
structure Syllable where
  first : Nat
  vowel : Nat
  last : Nat

def syllable? (p : Point) : Option Syllable :=
  (p.placeIn? 0xAC00 0xD7A3).map fun i => ⟨i / 588, i / 28 % 21, i % 28⟩

/-- The letters that open syllables. -/
def firsts : Text := "ㄱㄲㄴㄷㄸㄹㅁㅂㅃㅅㅆㅇㅈㅉㅊㅋㅌㅍㅎ"

/-- The letters that close syllables. -/
def lasts : Text := "ㄱㄲㄳㄴㄵㄶㄷㄹㄺㄻㄼㄽㄾㄿㅀㅁㅂㅄㅅㅆㅇㅈㅊㅋㅌㅍㅎ"

/-- The letter of a vowel. -/
def vowelLetter (n : Nat) : Point := Point.ofNat (0x314F + n)

/-- The sign that stands for no letter. -/
def filler : Point := 0x3164

def ascii? (p : Point) : Option Bytes :=
  if p.val < 0x80 then some [UInt8.ofNat p.val] else none

/-! ## Extended Unix code -/

/-- A syllable as the filler and three letters. -/
def spelled (s : Syllable) : Text :=
  [filler, firsts.getD s.first filler, vowelLetter s.vowel,
    if s.last = 0 then filler else lasts.getD (s.last - 1) filler]

def eucOctets? (p : Point) : Option Bytes :=
  ascii? p
    <|> Grid.ksx1001.octets? .wide p
    <|> (syllable? p).map fun s =>
      (spelled s).flatMap fun q => (Grid.ksx1001.octets? .wide q).getD []

/-! ## Windows -/

/-- The pairs of octets before the grid. -/
def beforeGrid : Frame := ⟨[(0x81, 0xA0)], [(0x41, 0x5A), (0x61, 0x7A), (0x81, 0xFE)]⟩

/-- The pairs of octets in the rows of the grid that are not in it. -/
def besideGrid : Frame := ⟨[(0xA1, 0xC6)], [(0x41, 0x5A), (0x61, 0x7A), (0x81, 0xA0)]⟩

/-- The octets of the syllable that has `i` others before it outside the grid. -/
def restOctets (i : Nat) : Bytes :=
  let n := beforeGrid.leads.count * beforeGrid.trails.count
  if i < n then beforeGrid.octets i else besideGrid.octets (i - n)

/-- How many syllables before a point are outside the grid. -/
def restBefore (p : Point) : Nat :=
  p.val - 0xAC00 - (Grid.ksx1001.points.filter fun q => 0xAC00 ≤ q.val && q.val < p.val).length

def windowsOctets? (p : Point) : Option Bytes :=
  ascii? p
    <|> Grid.ksx1001.octets? .wide p
    <|> (syllable? p).map fun _ => restOctets (restBefore p)

/-! ## Johab -/

/-- Sixteen bits: the top bit and three groups of five for the letters. -/
def packed (first vowel last : Nat) : Bytes :=
  let n := 0x8000 + first * 0x400 + vowel * 0x20 + last
  [UInt8.ofNat (n / 0x100), UInt8.ofNat (n % 0x100)]

def firstCode (n : Nat) : Nat := n + 2

def vowelCode (n : Nat) : Nat := n + 3 + 2 * ((n + 1) / 6)

def lastCode (n : Nat) : Nat := if n < 17 then n + 1 else n + 2

/-- A letter on its own: a consonant as a first letter if it can be one. -/
def letterOctets? (p : Point) : Option Bytes :=
  match firsts.findIdx? (· = p), lasts.findIdx? (· = p), p.placeIn? 0x314F 0x3163 with
  | some i, _, _ => some (packed (firstCode i) 2 1)
  | none, some i, _ => some (packed 1 2 (lastCode (i + 1)))
  | none, none, some i => some (packed 1 (vowelCode i) 1)
  | none, none, none => none

/-- The frames of the signs and of the hanja, which are in rows 0 to 11 and from row 41 on. -/
def signs : Frame := ⟨[(0xD9, 0xDE)], [(0x31, 0x7E), (0x91, 0xFE)]⟩

def hanja : Frame := ⟨[(0xE0, 0xF9)], [(0x31, 0x7E), (0x91, 0xFE)]⟩

def gridOctets (i : Nat) : Bytes :=
  if i < 12 * 94 then signs.octets i else hanja.octets (i - 41 * 94)

def johabOctets? (p : Point) : Option Bytes :=
  ascii? p
    <|> (syllable? p).map (fun s =>
      packed (firstCode s.first) (vowelCode s.vowel) (lastCode s.last))
    <|> letterOctets? p
    <|> (Grid.ksx1001.number? p).map gridOctets

end HiveScript.Korean
