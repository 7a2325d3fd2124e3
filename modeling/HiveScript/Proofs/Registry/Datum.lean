import HiveScript.Proofs.Text.Hexadecimal
import HiveScript.Script.Command

/-!
# Reading data

* **`read_eq_error_iff`**: a line part denotes no datum only because of the numeral after the tag of
  numbers.
* `readDword_eq_invalidDword_iff`, `readDword_eq_numeralTooLong_iff`: what is wrong with a numeral.
* `hexValue_lt_limit`: numerals of up to 3500 digits are short enough to be written;
  `limit_le_hexValue_replicate`: those of more than 3600 digits may be too long.
* `read_multiStringTag`, `read_expandStringTag`, `read_binaryTag`, `read_doubleQuoted`: the data of
  the other line parts.
-/

namespace HiveScript.Datum

open Numeral

/-- What stands before a number. -/
def dwordTag : Text := "dword:"

def multiStringTag : Text := "hex(7):"

def expandStringTag : Text := "hex(2):"

def binaryTag : Text := "hex:"

/-! ## Numbers -/

theorem readDword_of_not_isHexNumeral {w : Text} (h : ¬ IsHexNumeral w) :
    readDword w = .error .invalidDword := by
  rw [readDword, if_pos]
  rw [IsHexNumeral, not_and_or, not_not] at h
  rcases h with rfl | h
  · rfl
  · simpa using Or.inr h

theorem readDword_of_isHexNumeral {w : Text} (h : IsHexNumeral w) : readDword w =
    if hexValue w < limit then .ok (hexValue w) else .error .numeralTooLong := by
  have hc : ¬ (w.isEmpty || !w.all Point.isHexDigit) = true := by
    simpa [IsHexNumeral] using h
  rw [readDword, if_neg hc]
  rfl

/-- The exponent stays a variable, since the power is too large to be computed. -/
theorem limit_eq_pow {n : Nat} (h : maxDigits = n) : limit = 10 ^ n := by
  unfold limit
  rw [h]
  rfl

/-- Thirty-five hexadecimal digits fit into forty-three decimal ones. -/
theorem hexValue_lt_ten_pow {w : Text} (h : IsHexNumeral w) {k : Nat} (hl : w.length ≤ 35 * k) :
    hexValue w < 10 ^ (43 * k) := by
  calc hexValue w < 16 ^ w.length := hexValue_lt h.2
    _ ≤ 16 ^ (35 * k) := Nat.pow_le_pow_right (by decide) hl
    _ = (16 ^ 35) ^ k := Nat.pow_mul 16 35 k
    _ ≤ (10 ^ 43) ^ k := Nat.pow_le_pow_left (by decide) k
    _ = 10 ^ (43 * k) := (Nat.pow_mul 10 43 k).symm

theorem hexValue_lt_limit {w : Text} (h : IsHexNumeral w) (hl : w.length ≤ 3500) :
    hexValue w < limit := by
  rw [limit_eq_pow (n := 43 * 100) rfl]
  exact hexValue_lt_ten_pow h hl

/-- Forty-three decimal digits fit into thirty-six hexadecimal ones. -/
theorem ten_pow_lt {k n : Nat} (hn : 36 * k < n) : 10 ^ (43 * k) < 16 ^ n := by
  calc 10 ^ (43 * k) = (10 ^ 43) ^ k := Nat.pow_mul 10 43 k
    _ ≤ (16 ^ 36) ^ k := Nat.pow_le_pow_left (by decide) k
    _ = 16 ^ (36 * k) := (Nat.pow_mul 16 36 k).symm
    _ < 16 ^ n := Nat.pow_lt_pow_right (by decide) hn

theorem limit_le_hexValue_replicate {n : Nat} (hn : 36 * 100 < n) :
    limit ≤ hexValue (List.replicate n (Point.ofChar 'f')) := by
  have hpow := ten_pow_lt hn
  rw [← hexValue_replicate] at hpow
  rw [limit_eq_pow (n := 43 * 100) rfl]
  exact Nat.le_of_lt_succ hpow

/-! ## Line parts -/

theorem read_dwordTag (w : Text) : read (dwordTag ++ w) = dword <$> readDword w := by
  rw [read, ← dwordTag, Text.after?_append]

/-- A line part without the tag of numbers denotes a datum. -/
theorem exists_read_eq {s : Text} (h : ¬ dwordTag <+: s) : ∃ d, read s = .ok d := by
  rw [read, ← dwordTag, Text.after?_eq_none_iff.mpr h]
  dsimp only
  split
  · exact ⟨_, rfl⟩
  · split
    · exact ⟨_, rfl⟩
    · split
      · exact ⟨_, rfl⟩
      · split_ifs <;> exact ⟨_, rfl⟩

/-- **A line part is refused for what stands after the tag of numbers.** -/
theorem read_eq_error_iff {s : Text} {e : Error} :
    read s = .error e ↔ ∃ w, s = dwordTag ++ w ∧ readDword w = .error e := by
  constructor
  · intro h
    by_cases hs : dwordTag <+: s
    · obtain ⟨w, rfl⟩ := hs
      refine ⟨w, rfl, ?_⟩
      rw [read_dwordTag] at h
      cases hw : readDword w with
      | error e' => rw [hw] at h; simpa using h
      | ok n => rw [hw] at h; cases h
    · obtain ⟨d, hd⟩ := exists_read_eq hs
      rw [hd] at h
      cases h
  · rintro ⟨w, rfl, h⟩
    rw [read_dwordTag, h]
    rfl

theorem readDword_eq_invalidDword_iff {w : Text} :
    readDword w = .error .invalidDword ↔ ¬ IsHexNumeral w := by
  refine ⟨fun h hw => ?_, readDword_of_not_isHexNumeral⟩
  rw [readDword_of_isHexNumeral hw] at h
  split_ifs at h
  cases h

theorem readDword_eq_numeralTooLong_iff {w : Text} :
    readDword w = .error .numeralTooLong ↔ IsHexNumeral w ∧ limit ≤ hexValue w := by
  constructor
  · intro h
    have hw : IsHexNumeral w := by
      by_contra hw
      rw [readDword_of_not_isHexNumeral hw] at h
      cases h
    rw [readDword_of_isHexNumeral hw] at h
    split_ifs at h with hl
    exact ⟨hw, not_lt.mp hl⟩
  · rintro ⟨hw, hl⟩
    rw [readDword_of_isHexNumeral hw, if_neg (not_lt.mpr hl)]

/-! ## Line parts with other tags -/

theorem read_multiStringTag (w : Text) : read (multiStringTag ++ w) =
    .ok (multiString (items (Payload.text w))) := by
  have hd : Text.after? "dword:" (multiStringTag ++ w) = none := rfl
  rw [read, hd, ← multiStringTag, Text.after?_append]

theorem read_expandStringTag (w : Text) : read (expandStringTag ++ w) =
    .ok (expandString ((Payload.text w).filter (· ≠ Point.nul))) := by
  have hd : Text.after? "dword:" (expandStringTag ++ w) = none := rfl
  have hm : Text.after? "hex(7):" (expandStringTag ++ w) = none := rfl
  rw [read, hd, hm, ← expandStringTag, Text.after?_append]

theorem read_binaryTag (w : Text) : read (binaryTag ++ w) =
    .ok (binary (w.filter (· ≠ Point.ofChar ','))) := by
  have hd : Text.after? "dword:" (binaryTag ++ w) = none := rfl
  have hm : Text.after? "hex(7):" (binaryTag ++ w) = none := rfl
  have he : Text.after? "hex(2):" (binaryTag ++ w) = none := rfl
  rw [read, hd, hm, he, ← binaryTag, Text.after?_append]

/-- Items that each end with a null point, before one more of them, are found again. -/
theorem items_flatMap {ws : List Text} (h : ∀ w ∈ ws, w ≠ [] ∧ Point.nul ∉ w) :
    items (ws.flatMap (· ++ [Point.nul]) ++ [Point.nul]) = ws := by
  have hsep : ∀ w ∈ ws, ∀ p ∈ w, decide (p = Point.nul) = false := by
    intro w hw p hp
    rw [decide_eq_false_iff_not]
    rintro rfl
    exact (h w hw).2 hp
  have hne : ∀ w ∈ ws, (!w.isEmpty) = true := fun w hw => by simpa using (h w hw).1
  have hend : (Text.fields (· = Point.nul) [Point.nul]).filter (fun w => !w.isEmpty) = [] := rfl
  rw [items, Text.fields_flatMap (by simp) [Point.nul] hsep, List.filter_append, hend,
    List.append_nil, List.filter_eq_self.mpr hne]

theorem unquote_doubleQuoted (s : Text) : unquote (Script.doubleQuoted s) = s := by
  have ho : dropOpenQuote (Script.doubleQuoted s) = s ++ [Point.quotationMark] := rfl
  have hl : (s ++ [Point.quotationMark]).getLast? = some Point.quotationMark := by simp
  rw [unquote, ho, dropCloseQuote, if_pos hl, List.dropLast_concat]

/-- A quoted text is a string, whatever it looks like. -/
theorem read_doubleQuoted (s : Text) : read (Script.doubleQuoted s) = .ok (string s) := by
  have hd : Text.after? "dword:" (Script.doubleQuoted s) = none := rfl
  have hm : Text.after? "hex(7):" (Script.doubleQuoted s) = none := rfl
  have he : Text.after? "hex(2):" (Script.doubleQuoted s) = none := rfl
  have hb : Text.after? "hex:" (Script.doubleQuoted s) = none := rfl
  have hl : (Script.doubleQuoted s).getLast? = some Point.quotationMark := List.getLast?_concat
  rw [read, hd, hm, he, hb, if_pos ⟨rfl, hl⟩, unquote_doubleQuoted]

end HiveScript.Datum
