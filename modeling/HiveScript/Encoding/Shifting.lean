import HiveScript.Encoding.Chinese
import HiveScript.Encoding.Japanese
import HiveScript.Encoding.Korean

/-!
# Shifting encodings

Octets of seven bits that stand for ASCII at first. A shift lets the octets after it stand for the
points of another set, until the next shift.

* `Shifting.encode`: the octets of a text.
-/

namespace HiveScript

/-- A set of points that a shift goes to. -/
structure ShiftedSet where
  shift : Bytes
  octets? : Point → Option Bytes

/-- Encodings that shift between sets. The ones of ISO 2022 are named by language and variant. -/
inductive Shifting where
  | japanese
  | japanese1
  | japanese2
  | japaneseExtended
  | korean
  | chinese
  deriving DecidableEq

namespace Shifting

/-! ## Sets -/

def jis0208 : ShiftedSet := ⟨[0x1B, 0x24, 0x42], Grid.jis0208.octets? .narrow⟩

def jis0212 : ShiftedSet := ⟨[0x1B, 0x24, 0x28, 0x44], Grid.jis0212.octets? .narrow⟩

def roman : ShiftedSet := ⟨[0x1B, 0x28, 0x4A], fun p => (Japanese.roman? p).map fun b => [b]⟩

def kana : ShiftedSet :=
  ⟨[0x1B, 0x28, 0x49], fun p => (Japanese.kana? p).map fun b => [b - 0x80]⟩

def ksx1001 (shift : Bytes) : ShiftedSet := ⟨shift, Grid.ksx1001.octets? .narrow⟩

def gb2312 (shift : Bytes) : ShiftedSet := ⟨shift, Grid.gb2312.octets? .narrow⟩

/-- The sets of an encoding; a point is taken from the first that has it. -/
def sets : Shifting → List ShiftedSet
  | japanese => [jis0208, roman]
  | japanese1 => [jis0208, jis0212, roman]
  | japanese2 =>
    [jis0208, jis0212, ksx1001 [0x1B, 0x24, 0x28, 0x43], gb2312 [0x1B, 0x24, 0x28, 0x41], roman]
  | japaneseExtended => [jis0208, jis0212, roman, kana]
  | korean => [ksx1001 [0x0E]]
  | chinese => [gb2312 [0x7E, 0x7B]]

/-- The shift to ASCII. -/
def back : Shifting → Bytes
  | korean => [0x0F]
  | chinese => [0x7E, 0x7D]
  | _ => [0x1B, 0x28, 0x42]

/-- What tells about the shifts before the first of them. -/
def announcement : Shifting → Bytes
  | korean => [0x1B, 0x24, 0x29, 0x43]
  | _ => []

/-- The octets of a point of ASCII. A tilde that opens no shift is doubled. -/
def plain (e : Shifting) (p : Point) : Bytes :=
  if e = chinese ∧ p = Point.ofChar '~' then [0x7E, 0x7E] else [UInt8.ofNat p.val]

/-! ## Texts -/

/-- The number of the set that has a point, its shift, and the octets of the point. -/
def find? (e : Shifting) (p : Point) : Option (Nat × Bytes × Bytes) :=
  e.sets.zipIdx.findSome? fun (set, i) => (set.octets? p).map fun bs => (i, set.shift, bs)

def has (e : Shifting) (p : Point) : Bool := p.val < 0x80 || (e.find? p).isSome

/-- The octets of a text where the octets stand for some set, or for ASCII. -/
def encodeFrom (e : Shifting) (isAnnounced : Bool) (current : Option Nat) : Text → Bytes
  | [] => []
  | p :: s =>
    if p.val < 0x80 then
      (if current.isSome then e.back else []) ++ e.plain p ++ encodeFrom e isAnnounced none s
    else
      match e.find? p with
      | none => encodeFrom e isAnnounced current s
      | some (i, shift, bs) =>
        (if isAnnounced then [] else e.announcement) ++ (if current = some i then [] else shift) ++
          bs ++ encodeFrom e true (some i) s

def encode (e : Shifting) (s : Text) : Bytes := encodeFrom e false none s

end Shifting

end HiveScript
