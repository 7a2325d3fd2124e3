import HiveScript.Proofs.Text.Hexadecimal

/-!
# Decimal numerals

* `ofDigits_write`, `length_write_le`: the number and the length of a numeral of any base;
  `ofDigits_padded`, `length_padded`: the same of one that is filled with zeros.
* `isDigit_of_mem_decimal`, `head?_decimal_ne`: decimal numerals have decimal digits of ASCII only,
  and do not begin with a zero in vain.
* **`decimalValue_decimal`**: the number that a numeral denotes is the one that was written, so
  `decimal_injective`; `IsDecimalOf`: the canonical numeral of a number.
-/

namespace HiveScript.Numeral

/-! ## Digits -/

theorem lt_of_mem_digitsFrom {base fuel n d : Nat} (hb : 0 < base)
    (hd : d ∈ digitsFrom base fuel n) : d < base := by
  induction fuel generalizing n with
  | zero => cases hd
  | succ fuel ih =>
    rw [digitsFrom] at hd
    split_ifs at hd with hn
    · cases hd
    · rcases List.mem_cons.mp hd with rfl | hd
      · exact Nat.mod_lt n hb
      · exact ih hd

theorem div_lt_two_pow {base fuel n : Nat} (hb : 2 ≤ base) (hn : n < 2 ^ (fuel + 1)) :
    n / base < 2 ^ fuel := by
  rw [Nat.div_lt_iff_lt_mul (by omega)]
  calc n < 2 ^ fuel * 2 := by rwa [← pow_succ]
    _ ≤ 2 ^ fuel * base := Nat.mul_le_mul_left _ hb

/-- With fuel enough no digit is lost. -/
theorem ofDigits_digitsFrom {base fuel n : Nat} (hb : 2 ≤ base) (hn : n < 2 ^ fuel) :
    ofDigits base (digitsFrom base fuel n).reverse = n := by
  induction fuel generalizing n with
  | zero =>
    obtain rfl : n = 0 := by simpa using hn
    rfl
  | succ fuel ih =>
    rw [digitsFrom]
    split_ifs with h0
    · rw [h0]
      rfl
    · rw [List.reverse_cons, ofDigits_append_singleton, ih (div_lt_two_pow hb hn), Nat.mul_comm]
      exact Nat.div_add_mod n base

/-- Numbers below a power of the base have no more digits than its exponent. -/
theorem length_digitsFrom_le {base fuel n width : Nat} (hn : n < base ^ width) :
    (digitsFrom base fuel n).length ≤ width := by
  induction fuel generalizing n width with
  | zero => exact Nat.zero_le _
  | succ fuel ih =>
    rw [digitsFrom]
    split_ifs with h0
    · exact Nat.zero_le _
    · cases width with
      | zero => exact absurd (Nat.lt_one_iff.mp hn) h0
      | succ width =>
        have hdiv : n / base < base ^ width := Nat.div_lt_of_lt_mul (by rwa [← pow_succ'])
        exact Nat.succ_le_succ (ih hdiv)

/-- The highest digit is no zero. -/
theorem getLast?_digitsFrom_ne {base fuel n : Nat} (hb : 2 ≤ base) (hn : n < 2 ^ fuel) :
    (digitsFrom base fuel n).getLast? ≠ some 0 := by
  induction fuel generalizing n with
  | zero => exact nofun
  | succ fuel ih =>
    rw [digitsFrom]
    split_ifs with h0
    · exact nofun
    · by_cases hdiv : n / base = 0
      · -- The last digit is the number itself.
        have hlt : n < base := (Nat.div_eq_zero_iff_lt (by omega)).mp hdiv
        have hnil : digitsFrom base fuel (n / base) = [] := by
          rw [hdiv]
          cases fuel <;> rfl
        rw [hnil, List.getLast?_singleton, Nat.mod_eq_of_lt hlt]
        exact fun h => h0 (Option.some.inj h)
      · have hlt := div_lt_two_pow hb hn
        rw [List.getLast?_cons]
        have hrest := ih hlt
        cases hlast : (digitsFrom base fuel (n / base)).getLast? with
        | some d => rwa [hlast] at hrest
        | none =>
          rw [List.getLast?_eq_none_iff] at hlast
          have hzero := ofDigits_digitsFrom hb hlt
          rw [hlast] at hzero
          exact absurd hzero.symm hdiv

/-! ## Numerals -/

theorem exists_of_mem_write {base n : Nat} (hb : 0 < base) {p : Point} (hp : p ∈ write base n) :
    ∃ d < base, p = Point.ofDigit d := by
  rw [write] at hp
  split_ifs at hp
  · exact ⟨0, hb, List.mem_singleton.mp hp⟩
  · obtain ⟨d, hd, rfl⟩ := List.mem_map.mp hp
    exact ⟨d, lt_of_mem_digitsFrom hb (List.mem_reverse.mp hd), rfl⟩

theorem digit?_ofDigit {d : Nat} (hd : d < 16) : (Point.ofDigit d).digit? = some d := by
  interval_cases d <;> rfl

/-- **A numeral denotes the number that was written.** -/
theorem ofDigits_write {base : Nat} (hpos : 2 ≤ base) (hbase : base ≤ 16) (n : Nat) :
    ofDigits base ((write base n).map fun p => p.digit?.getD 0) = n := by
  rw [write]
  split_ifs with hn
  · simp [ofDigits, digit?_ofDigit, hn]
  · set ds := (digitsFrom base (Nat.log2 n + 1) n).reverse with hds
    have hread : ds.map ((fun p => p.digit?.getD 0) ∘ Point.ofDigit) = ds := by
      refine (List.map_congr_left fun d hd => ?_).trans (List.map_id' ds)
      rw [hds, List.mem_reverse] at hd
      have hlt : d < 16 := lt_of_lt_of_le (lt_of_mem_digitsFrom (by omega) hd) hbase
      rw [Function.comp_apply, digit?_ofDigit hlt, Option.getD_some]
    rw [List.map_map, hread, hds, ofDigits_digitsFrom hpos Nat.lt_log2_self]

theorem length_write_le {base width n : Nat} (hwidth : 0 < width) (hn : n < base ^ width) :
    (write base n).length ≤ width := by
  rw [write]
  split_ifs
  · exact hwidth
  · rw [List.length_map, List.length_reverse]
    exact length_digitsFrom_le hn

/-! ## Numerals of some width -/

theorem exists_of_mem_padded {base width n : Nat} (hb : 0 < base) {p : Point}
    (hp : p ∈ padded base width n) : ∃ d < base, p = Point.ofDigit d := by
  rcases List.mem_append.mp hp with hp | hp
  · exact ⟨0, hb, List.eq_of_mem_replicate hp⟩
  · exact exists_of_mem_write hb hp

theorem length_padded {base width n : Nat} (hwidth : 0 < width) (hn : n < base ^ width) :
    (padded base width n).length = width := by
  have hle := length_write_le hwidth hn
  rw [padded, Text.padLeft, List.length_append, List.length_replicate]
  omega

/-- Zeros before a numeral change nothing. -/
theorem ofDigits_padded {base : Nat} (hpos : 2 ≤ base) (hbase : base ≤ 16) (width n : Nat) :
    ofDigits base ((padded base width n).map fun p => p.digit?.getD 0) = n := by
  have hzeros : ∀ (k : Nat) (ds : List Nat),
      ofDigits base (List.replicate k 0 ++ ds) = ofDigits base ds := by
    intro k ds
    induction k with
    | zero => rfl
    | succ k ih =>
      rw [List.replicate_succ, List.cons_append, ofDigits, List.foldl_cons, Nat.zero_mul]
      exact ih
  rw [padded, Text.padLeft, List.map_append, List.map_replicate, digit?_ofDigit (by decide),
    Option.getD_some, hzeros, ofDigits_write hpos hbase]

/-! ## Decimal numerals -/

/-- The number of a decimal numeral. -/
def decimalValue (w : Text) : Nat := ofDigits 10 (w.map fun p => p.digit?.getD 0)

theorem isDigit_ofDigit {d : Nat} (hd : d < 10) : (Point.ofDigit d).isDigit = true := by
  interval_cases d <;> rfl

theorem isDigit_of_mem_decimal {n : Nat} {p : Point} (hp : p ∈ decimal n) : p.isDigit = true := by
  obtain ⟨d, hd, rfl⟩ := exists_of_mem_write (by decide) hp
  exact isDigit_ofDigit hd

/-- **A decimal numeral denotes the number that was written.** -/
theorem decimalValue_decimal (n : Nat) : decimalValue (decimal n) = n :=
  ofDigits_write (by decide) (by decide) n

theorem exists_decimal_eq (n : Nat) : ∃ d t, decimal n = d :: t ∧ d.isDigit = true := by
  cases hdecimal : decimal n with
  | nil =>
    rw [decimal, write] at hdecimal
    split_ifs at hdecimal with hn
    have hvalue : ofDigits 10 (digitsFrom 10 (n.log2 + 1) n).reverse = n :=
      ofDigits_digitsFrom (by decide) Nat.lt_log2_self
    rw [List.map_eq_nil_iff.mp hdecimal] at hvalue
    exact absurd hvalue.symm hn
  | cons d t =>
    exact ⟨d, t, rfl, isDigit_of_mem_decimal (by rw [hdecimal]; exact List.mem_cons_self)⟩

/-- Only zero begins with a zero. -/
theorem head?_decimal_ne {n : Nat} (hn : n ≠ 0) : (decimal n).head? ≠ some (Point.ofDigit 0) := by
  rw [decimal, write, if_neg hn, List.head?_map, List.head?_reverse]
  cases hlast : (digitsFrom 10 (Nat.log2 n + 1) n).getLast? with
  | none => exact nofun
  | some d =>
    have hd : d ≠ 0 := by
      rintro rfl
      exact getLast?_digitsFrom_ne (by decide) Nat.lt_log2_self hlast
    have hlt : d < 10 := lt_of_mem_digitsFrom (by decide) (List.mem_of_getLast? hlast)
    rw [Option.map_some, ne_eq, Option.some.injEq]
    intro heq
    have hdigits := congrArg Point.digit? heq
    rw [digit?_ofDigit (by omega), digit?_ofDigit (by decide)] at hdigits
    exact hd (Option.some.inj hdigits)

/-- The canonical decimal numeral of a number: decimal digits of ASCII, of which the first is a zero
only if it is the only one. -/
structure IsDecimalOf (w : Text) (n : Nat) : Prop where
  nonempty : w ≠ []
  digits : ∀ p ∈ w, p.isDigit = true
  noZeros : w.head? = some (Point.ofDigit 0) → w = [Point.ofDigit 0]
  value : decimalValue w = n

theorem isDecimalOf_decimal (n : Nat) : IsDecimalOf (decimal n) n where
  nonempty := by
    obtain ⟨d, t, hdecimal, -⟩ := exists_decimal_eq n
    simp [hdecimal]
  digits _ := isDigit_of_mem_decimal
  noZeros hhead := by
    by_cases hn : n = 0
    · rw [hn]
      rfl
    · exact absurd hhead (head?_decimal_ne hn)
  value := decimalValue_decimal n

theorem decimal_injective : Function.Injective decimal :=
  Function.LeftInverse.injective decimalValue_decimal

end HiveScript.Numeral
