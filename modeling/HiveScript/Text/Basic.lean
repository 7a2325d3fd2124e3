/-!
# Texts

A text is a list of code points. Surrogates are points like any other, because the values of a
registry export may hold lone ones, which `String` cannot.

* `Text.ofString`, and the coercions from `String` and `Char`: literals are written as strings.
* `Text.fields`: the pieces between the points of a class; `Text.join` puts pieces together.
* `Text.after?`: what follows a given beginning.
-/

namespace HiveScript

/-- A Unicode code point, surrogates included. -/
abbrev Point := Fin 0x110000

/-- Numerals denote points. -/
instance instNeZeroPoint : @NeZero Nat Zero.ofOfNat0 0x110000 := ⟨by decide⟩

/-- A sequence of code points. -/
abbrev Text := List Point

/-! ## Points -/

namespace Point

def ofChar (c : Char) : Point := ⟨c.toNat, by
  rcases c.valid with h | h
  · exact Nat.lt_trans h (by decide)
  · exact h.2⟩

/-- The point of a number, the replacement character when there is none. -/
def ofNat (n : Nat) : Point := if h : n < 0x110000 then ⟨n, h⟩ else 0xFFFD

def nul : Point := 0x00
def lineFeed : Point := 0x0A
def carriageReturn : Point := 0x0D
def space : Point := 0x20
def quotationMark : Point := 0x22
def apostrophe : Point := 0x27
def backslash : Point := 0x5C
def openBrace : Point := 0x7B
def closeBrace : Point := 0x7D
def byteOrderMark : Point := 0xFEFF
def replacement : Point := 0xFFFD

/-- Surrogates that open a pair. -/
def isHighSurrogate (p : Point) : Bool := 0xD800 ≤ p.val && p.val ≤ 0xDBFF

/-- Surrogates that close a pair. -/
def isLowSurrogate (p : Point) : Bool := 0xDC00 ≤ p.val && p.val ≤ 0xDFFF

def isSurrogate (p : Point) : Bool := 0xD800 ≤ p.val && p.val ≤ 0xDFFF

end Point

instance : Coe Char Point := ⟨Point.ofChar⟩

/-! ## Classes of points given by ranges -/

/-- Ranges of code points, ends included. -/
abbrev Ranges := List (Nat × Nat)

def Ranges.has (rs : Ranges) (p : Point) : Bool := rs.any fun r => r.1 ≤ p.val && p.val ≤ r.2

/-! ## Texts -/

namespace Text

def ofString (s : String) : Text := s.toList.map Point.ofChar

instance : Coe String Text := ⟨ofString⟩

/-- What follows `lead` in `s`, if `s` begins with it. -/
def after? (lead s : Text) : Option Text :=
  match lead, s with
  | [], s => some s
  | _ :: _, [] => none
  | a :: lead, b :: s => if a = b then after? lead s else none

def beginsWith (lead s : Text) : Bool := (after? lead s).isSome

/-- Puts a point before the first piece. -/
def consFirst (p : Point) : List Text → List Text
  | [] => [[p]]
  | w :: ws => (p :: w) :: ws

/-- The pieces between the points of a class; there is always one more piece than such points. -/
def fields (sep : Point → Bool) : Text → List Text
  | [] => [[]]
  | p :: s => if sep p then [] :: fields sep s else consFirst p (fields sep s)

/-- The parts before and after the first point `p`. -/
def cut? (p : Point) : Text → Option (Text × Text)
  | [] => none
  | q :: s => if q = p then some ([], s) else (cut? p s).map fun (a, b) => (q :: a, b)

/-- Puts pieces together with `sep` between them. -/
def join (sep : Text) : List Text → Text
  | [] => []
  | [w] => w
  | w :: ws => w ++ sep ++ join sep ws

/-- Writes `sub` for each point `p`. -/
def replacePoint (s : Text) (p : Point) (sub : Text) : Text :=
  s.flatMap fun q => if q = p then sub else [q]

/-- The order of texts point by point, which sorts names. -/
def le : Text → Text → Bool
  | [], _ => true
  | _ :: _, [] => false
  | a :: s, b :: t => a.val < b.val || (a = b && le s t)

/-- Fills with `p` on the right up to `width`. -/
def padRight (width : Nat) (p : Point) (s : Text) : Text := s ++ List.replicate (width - s.length) p

/-- Fills with `p` on the left up to `width`. -/
def padLeft (width : Nat) (p : Point) (s : Text) : Text := List.replicate (width - s.length) p ++ s

/-- Fills on both sides up to an even `width`; of an odd filling the right side gets more. -/
def center (width : Nat) (p : Point) (s : Text) : Text :=
  let pad := width - s.length
  List.replicate (pad / 2) p ++ s ++ List.replicate (pad - pad / 2) p

/-- The part before the last point `p` and the part from it on. -/
def cutLast? (p : Point) (s : Text) : Option (Text × Text) :=
  (cut? p s.reverse).map fun (a, b) => (b.reverse, p :: a.reverse)

end Text

end HiveScript
