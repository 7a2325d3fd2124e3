import HiveScript.Fault.Failure
import HiveScript.Value.Basic

/-!
# Order of keys

Keys are written in their order where they have one: texts among each other, numbers and truth
values among each other, dates among each other.

* `Scalar.less`: the order of keys, which fails for keys that have none.
-/

namespace HiveScript

namespace Scalar

/-- The order of an integer and a floating point number, which is exact. -/
def intLess (i : Int) : Binary64 → Bool
  | .nan => false
  | .infinite negative => !negative
  | .finite negative m e =>
    if 0 ≤ e then i < Binary64.signed negative (m * Binary64.twoTo e.toNat)
    else i * Binary64.twoTo (-e).toNat < Binary64.signed negative m

/-- The order of a floating point number and an integer. -/
def lessInt (x : Binary64) (i : Int) : Bool :=
  match x with
  | .nan => false
  | x => !intLess i x && !x.equalsInt i

def numberLess : Int ⊕ Binary64 → Int ⊕ Binary64 → Bool
  | .inl i, .inl j => i < j
  | .inl i, .inr y => intLess i y
  | .inr x, .inl j => lessInt x j
  | .inr x, .inr y => x.less y

/-- The order of keys, if these two have one. -/
def less (a b : Scalar) : Except Failure Bool :=
  match a, b with
  | text s, text t => .ok (s.le t && s ≠ t)
  | date d, date e => .ok (d.less e)
  | dateTime s, dateTime t =>
    if s.areComparable t then .ok (s.less t) else .error .mixedOffsets
  | date _, dateTime _ | dateTime _, date _ => .error .dateWithTime
  | a, b =>
    match a.number?, b.number? with
    | some m, some n => .ok (numberLess m n)
    | _, _ => .error (.notComparable a.typeName b.typeName)

end Scalar

end HiveScript
