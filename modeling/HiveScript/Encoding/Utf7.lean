import HiveScript.Encoding.Utf16

/-!
# UTF-7

A text in octets of seven bits. Most of ASCII stands for itself. A run of other points stands
between a plus sign and a minus sign as the octets of UTF-16 in base 64; the minus sign is left
out where the next character already shows the end of the run.

* `Utf7.encode`.
-/

namespace HiveScript.Utf7

/-- A digit of base 64. -/
def digit (n : Nat) : UInt8 :=
  let n := n % 64
  UInt8.ofNat <|
    if n < 26 then 0x41 + n
    else if n < 52 then 0x61 + (n - 26)
    else if n < 62 then 0x30 + (n - 52)
    else if n = 62 then 0x2B
    else 0x2F

/-- Octets in base 64. The last digit is filled with zeros. -/
def digits : Bytes → Bytes
  | [] => []
  | [a] => [digit (a.toNat >>> 2), digit (a.toNat <<< 4)]
  | [a, b] =>
    [digit (a.toNat >>> 2), digit (a.toNat <<< 4 + b.toNat >>> 4), digit (b.toNat <<< 2)]
  | a :: b :: c :: bs =>
    [digit (a.toNat >>> 2), digit (a.toNat <<< 4 + b.toNat >>> 4),
      digit (b.toNat <<< 2 + c.toNat >>> 6), digit c.toNat] ++ digits bs

/-- The characters that stand for themselves. -/
def direct : Text :=
  "\t\n\r !\"#$%&'()*,-./0123456789:;<=>?@ABCDEFGHIJKLMNOPQRSTUVWXYZ[]^_\x60" ++
    Text.ofString "abcdefghijklmnopqrstuvwxyz\x7b|\x7d"

def isDirect (p : Point) : Bool := direct.contains p

/-- A direct character after a run would be read as part of it. -/
def continues (p : Point) : Bool := (p = Point.ofChar '-') || digitPoints.contains p
where
  digitPoints : Text := (List.range 64).map fun n => Point.ofNat (digit n).toNat

/-- A run of points that do not stand for themselves, and the point after it. Plus signs at its
beginning have a form of their own. -/
def shifted (run : Text) (next : Option Point) : Bytes :=
  let isPlus (p : Point) := p = Point.ofChar '+'
  let pluses := (run.takeWhile isPlus).flatMap fun _ => [0x2B, 0x2D]
  match run.dropWhile isPlus with
  | [] => pluses
  | s => pluses ++ [0x2B] ++ digits (Utf16.encode .highFirst s) ++
    if next.all continues then [0x2D] else []

/-- The octets of runs of points, by turns of points that stand for themselves and others. -/
def encodeRuns : List Text → Bytes
  | [] => []
  | run :: runs =>
    (if run.all isDirect then run.map fun p => UInt8.ofNat p.val
      else shifted run (runs.head?.bind List.head?)) ++ encodeRuns runs

def encode (s : Text) : Bytes := encodeRuns (s.splitBy fun p q => isDirect p = isDirect q)

end HiveScript.Utf7
