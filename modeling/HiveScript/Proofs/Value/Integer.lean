import HiveScript.Proofs.Text.Notation
import HiveScript.Proofs.Value.Keys
import HiveScript.Value.Integer
import Mathlib.Data.Rat.Floor

/-!
# Integers that values stand for

* `Binary64.integerPart`: the integer part of a number; **`truncate?_eq_some_iff`**.
* `Value.StandsFor`: the integer that a value stands for; **`toInt_eq_ok_iff`**.
* `Value.IsInfinite`, **`toInt_eq_infiniteInteger_iff`**: the values that are refused as infinite.
-/

namespace HiveScript

/-! ## Numbers with a fraction -/

namespace Binary64

/-- The integer part of a number, which loses its fraction on either side of zero. -/
def integerPart (q : ℚ) : Int := if 0 ≤ q then ⌊q⌋ else ⌈q⌉

/-- Below zero the fraction is lost as it is above. -/
theorem integerPart_neg {q : ℚ} (hq : 0 ≤ q) : integerPart (-q) = -⌊q⌋ := by
  rw [integerPart]
  split_ifs with h
  · obtain rfl : q = 0 := le_antisymm (neg_nonneg.mp h) hq
    rfl
  · exact Int.ceil_neg

/-- The integer part of a multiple of a power of two is a multiple or a quotient. -/
theorem floor_mul_two_zpow (m : Nat) (e : Int) :
    ⌊(m * 2 ^ e : ℚ)⌋ =
      ((if 0 ≤ e then m * twoTo e.toNat else m / twoTo (-e).toNat : Nat) : Int) := by
  split_ifs with he
  · have hpower : (2 : ℚ) ^ e = (twoTo e.toNat : Nat) := by
      rw [cast_twoTo, ← zpow_natCast, Int.toNat_of_nonneg he]
    rw [hpower, ← Nat.cast_mul, Int.floor_natCast]
  · have hpower : (2 : ℚ) ^ e = ((twoTo (-e).toNat : Nat) : ℚ)⁻¹ := by
      rw [cast_twoTo, ← zpow_natCast, Int.toNat_of_nonneg (by omega), zpow_neg, inv_inv]
    rw [hpower, ← div_eq_mul_inv, Rat.floor_natCast_div_natCast, Int.natCast_ediv]

theorem integerPart_signed (a : Bool) (m : Nat) (e : Int) :
    integerPart (signed a m * 2 ^ e) =
      signed a (if 0 ≤ e then m * twoTo e.toNat else m / twoTo (-e).toNat) := by
  have hpos : (0 : ℚ) ≤ m * 2 ^ e := mul_nonneg m.cast_nonneg (zpow_nonneg zero_le_two e)
  cases a with
  | false =>
    have hsame : ((signed false m : Int) : ℚ) = m := by simp [signed]
    rw [hsame, integerPart, if_pos hpos, floor_mul_two_zpow]
    rfl
  | true =>
    have hnegated : ((signed true m : Int) : ℚ) = -m := by simp [signed]
    rw [hnegated, neg_mul, integerPart_neg hpos, floor_mul_two_zpow]
    rfl

/-- **A number has the integer part of what it counts.** -/
theorem truncate?_eq_some_iff {x : Binary64} {i : Int} :
    x.truncate? = some i ↔ ∃ q, x.key = .number q ∧ integerPart q = i := by
  cases x with
  | nan | infinite a =>
    refine iff_of_false nofun ?_
    rintro ⟨_, ⟨⟩, -⟩
  | finite a m e =>
    rw [truncate?, Option.some.injEq, ← integerPart_signed, key]
    constructor
    · exact fun h => ⟨_, rfl, h⟩
    · rintro ⟨_, ⟨⟩, h⟩
      exact h

end Binary64

/-! ## Values -/

namespace Value

open Binary64 (integerPart)

/-- The integer that a value stands for. -/
inductive StandsFor : Value → Int → Prop
  | truth (b : Bool) : StandsFor (.bool b) (if b then 1 else 0)
  | integer (i : Int) : StandsFor (.int i) i
  | number {x : Binary64} {q : ℚ} (counts : x.key = .number q) :
    StandsFor (.float x) (integerPart q)
  | numeral {s : Text} {i : Int} (denotes : Numeral.DenotesDecimal (s.trimBy Numeral.isMargin) i) :
    StandsFor (.text s) i

/-- The value is an infinite number. -/
def IsInfinite (v : Value) : Prop := ∃ negative, v = .float (.infinite negative)

variable {v : Value}

theorem standsFor_float_iff {x : Binary64} {i : Int} :
    StandsFor (.float x) i ↔ x.truncate? = some i := by
  rw [Binary64.truncate?_eq_some_iff]
  constructor
  · intro h
    cases h with
    | number counts => exact ⟨_, counts, rfl⟩
  · rintro ⟨q, counts, rfl⟩
    exact .number counts

theorem standsFor_text_iff {s : Text} {i : Int} :
    StandsFor (.text s) i ↔ Numeral.read 10 s = .ok i := by
  rw [Numeral.read_decimal_eq_ok_iff]
  constructor
  · intro h
    cases h with
    | numeral denotes => exact denotes
  · exact .numeral

/-- **What a value becomes where an integer is asked for** is the integer that it stands for. -/
theorem toInt_eq_ok_iff {i : Int} : v.toInt = .ok i ↔ v.StandsFor i := by
  match v with
  | .bool b =>
    rw [toInt, Except.ok.injEq]
    constructor
    · rintro rfl
      exact .truth b
    · rintro ⟨⟩
      rfl
  | .int j =>
    rw [toInt, Except.ok.injEq]
    constructor
    · rintro rfl
      exact .integer j
    · rintro ⟨⟩
      rfl
  | .float x =>
    rw [standsFor_float_iff, toInt]
    cases x.truncate? <;> simp
  | .text s =>
    rw [standsFor_text_iff, toInt]
    rcases Numeral.read 10 s with (_ | _) | _ <;> simp
  | .null | .date _ | .dateTime _ | .list _ | .map _ =>
    exact iff_of_false nofun nofun

theorem toInt_eq_infiniteInteger_iff : v.toInt = .error .infiniteInteger ↔ v.IsInfinite := by
  match v with
  | .float x =>
    rw [toInt]
    cases x <;> simp [Binary64.truncate?, IsInfinite]
  | .text s =>
    rw [toInt]
    rcases Numeral.read 10 s with (_ | _) | _ <;> simp [IsInfinite]
  | .bool _ | .int _ | .null | .date _ | .dateTime _ | .list _ | .map _ =>
    refine iff_of_false nofun ?_
    rintro ⟨_, ⟨⟩⟩

end Value

end HiveScript
