import HiveScript.Proofs.Text.Parts
import HiveScript.Text.Numeral
import Mathlib.Data.List.Induction
import Mathlib.Tactic.IntervalCases
import Mathlib.Tactic.Ring

/-!
# Hexadecimal numerals

* `IsHexNumeral`: one or more hexadecimal digits of ASCII; `hexValue`: the number they denote.
* `dropZeros`, `hexValue_lt_pow_iff`: how many digits a small number has.
* `hexDigits`: the numeral of a number in a fixed width, in small or capital letters.
* **`read_hexNumeral`**: the liberal reader takes such a numeral for its value.
* `hexValue_hexDigits`: writing and reading back.
-/

namespace HiveScript

/-! ## Digits -/

theorem Point.isHexDigit_iff {p : Point} : p.isHexDigit = true ↔
    (0x30 ≤ p.val ∧ p.val ≤ 0x39) ∨ (0x41 ≤ p.val ∧ p.val ≤ 0x46) ∨
      (0x61 ≤ p.val ∧ p.val ≤ 0x66) := by
  simp [isHexDigit, Ranges.has]

theorem Point.isBlank_of_isHexDigit {p : Point} (h : p.isHexDigit = true) : p.isBlank = false := by
  rw [isHexDigit_iff] at h
  simp only [isBlank, Ranges.has, blankRanges, List.any_eq_false, List.mem_cons, List.not_mem_nil,
    or_false, Bool.and_eq_true, decide_eq_true_eq]
  rintro r (rfl | rfl | rfl | rfl | rfl | rfl | rfl | rfl | rfl | rfl) <;> dsimp only <;> omega

/-- The value of a hexadecimal digit. -/
theorem Point.exists_digit?_eq {p : Point} (h : p.isHexDigit = true) :
    ∃ d < 16, p.digit? = some d := by
  rw [isHexDigit_iff] at h
  rw [digit?]
  rcases h with h | h | h
  · rw [if_neg (by omega), if_neg (by omega), decimalDigit?, decimalZeros,
      List.find?_cons_of_pos (by simp; omega)]
    exact ⟨p.val - 0x30, by omega, rfl⟩
  · rw [if_neg (by omega), if_pos (by omega)]
    exact ⟨_, by omega, rfl⟩
  · rw [if_pos (by omega)]
    exact ⟨_, by omega, rfl⟩

theorem Point.eq_zero_of_digit?_eq {p : Point} (h : p.isHexDigit = true) (hd : p.digit? = some 0) :
    p = Point.ofChar '0' := by
  rw [isHexDigit_iff] at h
  rw [digit?] at hd
  rcases h with h | h | h
  · rw [if_neg (by omega), if_neg (by omega), decimalDigit?, decimalZeros,
      List.find?_cons_of_pos (by simp; omega), Option.map_some, Option.some.injEq] at hd
    have hval : p.val = 0x30 := by omega
    exact Fin.ext hval
  · rw [if_neg (by omega), if_pos (by omega), Option.some.injEq] at hd
    omega
  · rw [if_pos (by omega), Option.some.injEq] at hd
    omega

theorem Point.ne_ofChar_of_isHexDigit {p : Point} (h : p.isHexDigit = true) {c : Char}
    (hc : (Point.ofChar c).isHexDigit = false) : p ≠ Point.ofChar c := by
  rintro rfl
  rw [h] at hc
  exact Bool.noConfusion hc

namespace Numeral

/-! ## Reading -/

/-- One or more hexadecimal digits of ASCII. -/
def IsHexNumeral (w : Text) : Prop := w ≠ [] ∧ ∀ p ∈ w, p.isHexDigit = true

/-- The number of a hexadecimal numeral. -/
def hexValue (w : Text) : Nat := ofDigits 16 (w.map fun p => p.digit?.getD 0)

theorem ofDigits_append_singleton (base d : Nat) (ds : List Nat) :
    ofDigits base (ds ++ [d]) = ofDigits base ds * base + d := by
  rw [ofDigits, List.foldl_append]
  rfl

theorem hexValue_append_singleton (w : Text) (p : Point) :
    hexValue (w ++ [p]) = hexValue w * 16 + p.digit?.getD 0 := by
  rw [hexValue, List.map_append, List.map_singleton, ofDigits_append_singleton, hexValue]

theorem hexValue_lt {w : Text} (hw : ∀ p ∈ w, p.isHexDigit = true) :
    hexValue w < 16 ^ w.length := by
  induction w using List.reverseRecOn with
  | nil => decide
  | append_singleton w p ih =>
    obtain ⟨d, hd, e⟩ := Point.exists_digit?_eq (hw p (by simp))
    have := ih fun q hq => hw q (by simp [hq])
    rw [hexValue_append_singleton, e, Option.getD_some, List.length_append, List.length_singleton,
      pow_succ]
    omega

theorem ofDigits_append (base : Nat) (ds es : List Nat) :
    ofDigits base (ds ++ es) = ofDigits base ds * base ^ es.length + ofDigits base es := by
  induction es using List.reverseRecOn with
  | nil => simp [ofDigits]
  | append_singleton es e ih =>
    rw [← List.append_assoc, ofDigits_append_singleton, ih, ofDigits_append_singleton,
      List.length_append, List.length_singleton, pow_succ]
    ring

theorem hexValue_cons (p : Point) (w : Text) :
    hexValue (p :: w) = p.digit?.getD 0 * 16 ^ w.length + hexValue w := by
  have hfirst : ofDigits 16 [p.digit?.getD 0] = p.digit?.getD 0 := by simp [ofDigits]
  rw [hexValue, List.map_cons, ← List.singleton_append, ofDigits_append, hfirst, List.length_map,
    hexValue]

/-- A numeral without the zeros at its beginning. -/
def dropZeros (w : Text) : Text := w.dropWhile (· = Point.ofChar '0')

/-- **Only the digits behind the zeros make a number large.** -/
theorem hexValue_lt_pow_iff {w : Text} (hw : ∀ p ∈ w, p.isHexDigit = true) {k : Nat} :
    hexValue w < 16 ^ k ↔ (dropZeros w).length ≤ k := by
  induction w with
  | nil => simp [hexValue, ofDigits, dropZeros]
  | cons p w ih =>
    have hrest : ∀ q ∈ w, q.isHexDigit = true := (List.forall_mem_cons.mp hw).2
    by_cases hp : p = Point.ofChar '0'
    · have hzero : p.digit?.getD 0 = 0 := by
        rw [hp]
        decide
      rw [hexValue_cons, hzero, Nat.zero_mul, Nat.zero_add, dropZeros,
        List.dropWhile_cons_of_pos (by simpa using hp), ← dropZeros, ih hrest]
    · rw [dropZeros, List.dropWhile_cons_of_neg (by simpa using hp)]
      constructor
      · intro hlt
        by_contra hk
        obtain ⟨d, -, hd⟩ := Point.exists_digit?_eq (hw p List.mem_cons_self)
        have hpos : d ≠ 0 := by
          rintro rfl
          exact hp (Point.eq_zero_of_digit?_eq (hw p List.mem_cons_self) hd)
        have hpow : 16 ^ k ≤ 16 ^ w.length :=
          Nat.pow_le_pow_right (by decide) (Nat.le_of_lt_succ (Nat.lt_of_not_le hk))
        have hdigit : 16 ^ w.length ≤ d * 16 ^ w.length :=
          Nat.le_mul_of_pos_left _ (Nat.pos_of_ne_zero hpos)
        rw [hexValue_cons, hd, Option.getD_some] at hlt
        omega
      · intro hk
        exact (hexValue_lt hw).trans_le (Nat.pow_le_pow_right (by decide) hk)

theorem isHexNumeral_replicate {n : Nat} (hn : n ≠ 0) :
    IsHexNumeral (List.replicate n (Point.ofChar 'f')) := by
  refine ⟨by rwa [ne_eq, List.replicate_eq_nil_iff], fun p hp => ?_⟩
  rw [List.eq_of_mem_replicate hp]
  rfl

theorem hexValue_replicate (n : Nat) :
    hexValue (List.replicate n (Point.ofChar 'f')) + 1 = 16 ^ n := by
  induction n with
  | zero => rfl
  | succ n ih =>
    have hd : (Point.ofChar 'f').digit?.getD 0 = 15 := by decide
    rw [List.replicate_succ', hexValue_append_singleton, hd, pow_succ, ← ih]
    omega

theorem readDigits_of_isHexDigit {w : Text} (hw : ∀ p ∈ w, p.isHexDigit = true) :
    readDigits 16 w = some (w.map fun p => p.digit?.getD 0) := by
  induction w with
  | nil => rfl
  | cons p w ih =>
    rw [List.forall_mem_cons] at hw
    obtain ⟨d, hd, e⟩ := Point.exists_digit?_eq hw.1
    rw [readDigits.eq_def]
    simp only [if_neg (Point.ne_ofChar_of_isHexDigit hw.1 (c := '_') rfl), e, ih hw.2]
    simp [hd, e]

/-- A hexadecimal digit is no mark of the base. -/
theorem dropMark_of_isHexDigit {w : Text} (hw : ∀ p ∈ w, p.isHexDigit = true) :
    dropMark 16 w = w := by
  rcases w with _ | ⟨p, _ | ⟨q, w⟩⟩
  · rfl
  · rfl
  · have hq : q.isHexDigit = true := hw q (by simp)
    rw [dropMark, if_neg]
    rintro ⟨-, -, h | h⟩
    · exact Point.ne_ofChar_of_isHexDigit hq (c := 'x') rfl h
    · exact Point.ne_ofChar_of_isHexDigit hq (c := 'X') rfl h

theorem readSign_of_isHexDigit {w : Text} (hw : ∀ p ∈ w, p.isHexDigit = true) :
    readSign w = (false, w) := by
  cases w with
  | nil => rfl
  | cons p w =>
    have hp : p.isHexDigit = true := hw p (by simp)
    rw [readSign, if_neg (Point.ne_ofChar_of_isHexDigit hp rfl),
      if_neg (Point.ne_ofChar_of_isHexDigit hp rfl)]

theorem isMargin_of_isHexDigit {p : Point} (h : p.isHexDigit = true) : isMargin p = false := by
  rw [isMargin, Point.isBlank_of_isHexDigit h, Bool.false_and]

/-- **The liberal reader takes a hexadecimal numeral for its value.** -/
theorem read_hexNumeral {w : Text} (h : IsHexNumeral w) : read 16 w = .ok (hexValue w) := by
  obtain ⟨hne, hw⟩ := h
  have ht : w.trimBy isMargin = w :=
    Text.trimBy_eq_self (fun p hp => isMargin_of_isHexDigit (hw p (List.mem_of_mem_head? hp)))
      fun p hp => isMargin_of_isHexDigit (hw p (List.mem_of_mem_getLast? hp))
  have hu : w.head? ≠ some (Point.ofChar '_') := fun hp =>
    Point.ne_ofChar_of_isHexDigit (hw _ (List.mem_of_mem_head? hp)) rfl rfl
  have hb : readBody 16 w = some (w.map fun p => p.digit?.getD 0) := by
    rw [readBody]
    simp only [dropMark_of_isHexDigit hw, if_neg hu, readDigits_of_isHexDigit hw]
    simp [hne]
  rw [read, ht, readSign_of_isHexDigit hw]
  simp only [hb]
  rfl

/-! ## Writing -/

/-- The digit of a value below 16, in small or capital letters. -/
def hexDigit (capital : Bool) (d : Nat) : Point :=
  if capital ∧ 10 ≤ d then Point.ofNat (0x41 + d - 10) else Point.ofDigit d

/-- The last `width` digits of a number. -/
def hexDigits (capital : Bool) : Nat → Nat → Text
  | 0, _ => []
  | width + 1, n => hexDigits capital width (n / 16) ++ [hexDigit capital (n % 16)]

theorem length_hexDigits (capital : Bool) (width n : Nat) :
    (hexDigits capital width n).length = width := by
  induction width generalizing n with
  | zero => rfl
  | succ width ih => rw [hexDigits, List.length_append, ih, List.length_singleton]

theorem isHexDigit_hexDigit (capital : Bool) {d : Nat} (hd : d < 16) :
    (hexDigit capital d).isHexDigit = true := by
  interval_cases d <;> cases capital <;> rfl

theorem digit?_hexDigit (capital : Bool) {d : Nat} (hd : d < 16) :
    (hexDigit capital d).digit? = some d := by
  interval_cases d <;> cases capital <;> rfl

theorem isHexDigit_of_mem_hexDigits {capital : Bool} {width n : Nat} :
    ∀ p ∈ hexDigits capital width n, p.isHexDigit = true := by
  induction width generalizing n with
  | zero => simp [hexDigits]
  | succ width ih =>
    intro p hp
    rcases List.mem_append.mp hp with hp | hp
    · exact ih p hp
    · rw [List.mem_singleton.mp hp]
      exact isHexDigit_hexDigit capital (Nat.mod_lt n (by decide))

theorem isHexNumeral_hexDigits (capital : Bool) (width n : Nat) :
    IsHexNumeral (hexDigits capital (width + 1) n) :=
  ⟨by simp [hexDigits], isHexDigit_of_mem_hexDigits⟩

/-- **A numeral that is wide enough denotes its number.** -/
theorem hexValue_hexDigits (capital : Bool) {width n : Nat} (hn : n < 16 ^ width) :
    hexValue (hexDigits capital width n) = n := by
  induction width generalizing n with
  | zero =>
    obtain rfl : n = 0 := by simpa using hn
    rfl
  | succ width ih =>
    have hd : n / 16 < 16 ^ width := by rw [pow_succ] at hn; omega
    rw [hexDigits, hexValue_append_singleton, ih hd,
      digit?_hexDigit capital (Nat.mod_lt n (by decide)), Option.getD_some]
    omega

end Numeral

end HiveScript
