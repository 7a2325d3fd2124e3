import HiveScript.Text.Basic

/-!
# UTF-8

Octets of texts. A decoder yields one result per character: a point, or nothing for a longest
beginning of a character that does not go on as one. In the general form surrogates are characters
of three octets, each on its own; the strict form knows no surrogates.

* `Utf8.encode`: the general form of any text.
* `Utf8.decode`: reads either form; `Utf8.decode?` wants all of it well-formed.
* `Utf8.encode?`: the strict form, or the run of surrogates that prevents it.
-/

namespace HiveScript

/-- Octets, as files and streams hold them. -/
abbrev Bytes := List UInt8

namespace Utf8

/-- The mark that may stand before a text in UTF-8. -/
def mark : Bytes := [0xEF, 0xBB, 0xBF]

/-! ## Encoding -/

/-- An octet with a leading pattern and the six bits of `n` from bit `shift` on. -/
def tailOctet (shift n : Nat) : UInt8 := UInt8.ofNat (0x80 + n >>> shift % 0x40)

/-- The octets of a point. -/
def octets (p : Point) : Bytes :=
  let n := p.val
  if n < 0x80 then [UInt8.ofNat n]
  else if n < 0x800 then [UInt8.ofNat (0xC0 + n >>> 6), tailOctet 0 n]
  else if n < 0x10000 then [UInt8.ofNat (0xE0 + n >>> 12), tailOctet 6 n, tailOctet 0 n]
  else [UInt8.ofNat (0xF0 + n >>> 18), tailOctet 12 n, tailOctet 6 n, tailOctet 0 n]

def encode (s : Text) : Bytes := s.flatMap octets

/-- A run of surrogates in a text: where it starts, how long it is, and its first point. -/
structure SurrogateRun where
  start : Nat
  length : Nat
  first : Point
  deriving DecidableEq

/-- The first run of surrogates. -/
def surrogateRun? (s : Text) : Option SurrogateRun :=
  match s.dropWhile fun p => !p.isSurrogate with
  | [] => none
  | p :: rest =>
    some ⟨s.length - (rest.length + 1), ((p :: rest).takeWhile Point.isSurrogate).length, p⟩

/-- The strict form. -/
def encode? (s : Text) : Except SurrogateRun Bytes :=
  match surrogateRun? s with
  | some run => .error run
  | none => .ok (encode s)

/-! ## Decoding -/

/-- The octets that may follow a lead octet, and how many more follow after that. -/
structure Lead where
  low : UInt8
  high : UInt8
  more : Nat
  bits : Nat

/-- What a lead octet of two or more octets asks for. -/
def lead? (general : Bool) (b : UInt8) : Option Lead :=
  if 0xC2 ≤ b ∧ b ≤ 0xDF then some ⟨0x80, 0xBF, 0, b.toNat - 0xC0⟩
  else if b = 0xE0 then some ⟨0xA0, 0xBF, 1, 0⟩
  else if b = 0xED ∧ !general then some ⟨0x80, 0x9F, 1, 0xD⟩
  else if 0xE1 ≤ b ∧ b ≤ 0xEF then some ⟨0x80, 0xBF, 1, b.toNat - 0xE0⟩
  else if b = 0xF0 then some ⟨0x90, 0xBF, 2, 0⟩
  else if 0xF1 ≤ b ∧ b ≤ 0xF3 then some ⟨0x80, 0xBF, 2, b.toNat - 0xF0⟩
  else if b = 0xF4 then some ⟨0x80, 0x8F, 2, 4⟩
  else none

/-- Reading stands between characters, or inside one that has the given bits so far. -/
inductive State where
  | between
  | inside (lead : Lead)

/-- Reads one octet: the results that are complete, and the state after it. -/
def step (general : Bool) (state : State) (b : UInt8) : List (Option Point) × State :=
  let fresh : List (Option Point) × State :=
    if b < 0x80 then ([some (Point.ofNat b.toNat)], .between)
    else match lead? general b with
      | some lead => ([], .inside lead)
      | none => ([none], .between)
  match state with
  | .between => fresh
  | .inside lead =>
    if lead.low ≤ b ∧ b ≤ lead.high then
      let bits := lead.bits * 0x40 + (b.toNat - 0x80)
      match lead.more with
      | 0 => ([some (Point.ofNat bits)], .between)
      | more + 1 => ([], .inside ⟨0x80, 0xBF, more, bits⟩)
    else (none :: fresh.1, fresh.2)

/-- Reads octets from a state on; a character that the end cuts off is one ill result. -/
def decodeFrom (general : Bool) : State → Bytes → List (Option Point)
  | .between, [] => []
  | .inside _, [] => [none]
  | state, b :: bs =>
    let (done, state) := step general state b
    done ++ decodeFrom general state bs

def decode (general : Bool) (bs : Bytes) : List (Option Point) := decodeFrom general .between bs

/-- The text of well-formed octets. -/
def decode? (general : Bool) (bs : Bytes) : Option Text := (decode general bs).mapM id

/-- The text of any octets, with the replacement character for each ill beginning. -/
def decodeLossy (bs : Bytes) : Text := (decode false bs).map fun r => r.getD Point.replacement

end Utf8

end HiveScript
