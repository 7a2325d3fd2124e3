import HiveScript.Encoding.Utf16
import HiveScript.Proofs.Text.Ascii
import Mathlib.Algebra.Group.Nat.Even
import Mathlib.Data.List.Chain
import Mathlib.Data.List.Induction

/-!
# UTF-16 there and back

* `Unpaired`: texts whose surrogates do not stand as pairs. Lone ones may stand anywhere.
* `units_flatMap_unitOctets`, `flatMap_unitOctets_units`: octets to units and back.
* `pairUp_flatMap_unitsOf`, `flatMap_unitsOf_pairUp`: units to points and back. The first needs
  `Unpaired`, as two surrogates that are points of a text have the units of one point beyond them.
* **`decode_encode`**, **`encode_decode`**: both.
-/

namespace HiveScript

theorem Point.val_ofNat {n : Nat} (h : n < 0x110000) : (Point.ofNat n).val = n := by
  rw [ofNat, dif_pos h]

theorem Point.ofNat_val (p : Point) : Point.ofNat p.val = p := Fin.ext (Point.val_ofNat p.isLt)

theorem Point.isHighSurrogate_iff {p : Point} :
    p.isHighSurrogate = true ↔ 0xD800 ≤ p.val ∧ p.val ≤ 0xDBFF := by
  rw [isHighSurrogate, Bool.and_eq_true, decide_eq_true_eq, decide_eq_true_eq]

theorem Point.isLowSurrogate_iff {p : Point} :
    p.isLowSurrogate = true ↔ 0xDC00 ≤ p.val ∧ p.val ≤ 0xDFFF := by
  rw [isLowSurrogate, Bool.and_eq_true, decide_eq_true_eq, decide_eq_true_eq]

namespace Utf16

/-! ## Octets -/

theorem units_unitOctets_append (order : Order) {u : Point} (hu : u.val < 0x10000) (bs : Bytes) :
    units order (unitOctets order u ++ bs) = (u :: (units order bs).1, (units order bs).2) := by
  have hlow : (UInt8.ofNat (u.val % 0x100)).toNat = u.val % 0x100 :=
    UInt8.toNat_ofNat_of_lt' (Nat.mod_lt _ (by decide))
  have hhigh : (UInt8.ofNat (u.val / 0x100)).toNat = u.val / 0x100 :=
    UInt8.toNat_ofNat_of_lt' (Nat.div_lt_of_lt_mul hu)
  have hunit : ∀ n, n = u.val → Point.ofNat n = u := by
    rintro n rfl
    exact Fin.ext (Point.val_ofNat u.isLt)
  cases order with
  | lowFirst =>
    have h := hunit (u.val % 0x100 + u.val / 0x100 * 0x100) (by omega)
    rw [unitOctets, List.cons_append, List.singleton_append, units, unit, hlow, hhigh, h]
  | highFirst =>
    have h := hunit (u.val / 0x100 * 0x100 + u.val % 0x100) (by omega)
    rw [unitOctets, List.cons_append, List.singleton_append, units, unit, hlow, hhigh, h]

theorem units_flatMap_unitOctets (order : Order) {us : List Point}
    (hus : ∀ u ∈ us, u.val < 0x10000) :
    units order (us.flatMap (unitOctets order)) = (us, false) := by
  induction us with
  | nil => rfl
  | cons u us ih =>
    rw [List.forall_mem_cons] at hus
    rw [List.flatMap_cons, units_unitOctets_append order hus.1, ih hus.2]

theorem val_unit (order : Order) (a b : UInt8) : (unit order a b).val =
    match order with
    | .lowFirst => a.toNat + b.toNat * 0x100
    | .highFirst => a.toNat * 0x100 + b.toNat := by
  have ha := a.toNat_lt
  have hb := b.toNat_lt
  cases order with
  | lowFirst => exact Point.val_ofNat (by omega)
  | highFirst => exact Point.val_ofNat (by omega)

theorem val_unit_lt (order : Order) (a b : UInt8) : (unit order a b).val < 0x10000 := by
  have ha := a.toNat_lt
  have hb := b.toNat_lt
  rw [val_unit]
  cases order with
  | lowFirst => dsimp only; omega
  | highFirst => dsimp only; omega

theorem unitOctets_unit (order : Order) (a b : UInt8) :
    unitOctets order (unit order a b) = [a, b] := by
  have ha := a.toNat_lt
  have hb := b.toNat_lt
  cases order with
  | lowFirst =>
    have hlow : (a.toNat + b.toNat * 0x100) % 0x100 = a.toNat := by omega
    have hhigh : (a.toNat + b.toNat * 0x100) / 0x100 = b.toNat := by omega
    rw [unitOctets, val_unit]
    dsimp only
    rw [hlow, hhigh, UInt8.ofNat_toNat, UInt8.ofNat_toNat]
  | highFirst =>
    have hlow : (a.toNat * 0x100 + b.toNat) % 0x100 = b.toNat := by omega
    have hhigh : (a.toNat * 0x100 + b.toNat) / 0x100 = a.toNat := by omega
    rw [unitOctets, val_unit]
    dsimp only
    rw [hlow, hhigh, UInt8.ofNat_toNat, UInt8.ofNat_toNat]

theorem units_cons_cons (order : Order) (a b : UInt8) (bs : Bytes) :
    (units order (a :: b :: bs)).1 = unit order a b :: (units order bs).1 := rfl

theorem lt_of_mem_units {order : Order} {bs : Bytes} :
    ∀ u ∈ (units order bs).1, u.val < 0x10000 := by
  induction bs using List.twoStepInduction with
  | nil => exact nofun
  | singleton b => exact nofun
  | cons_cons a b bs ih _ =>
    rw [units_cons_cons]
    exact List.forall_mem_cons.mpr ⟨val_unit_lt order a b, ih⟩

/-- The units of octets are those of the octets that stand in pairs. -/
theorem flatMap_unitOctets_units (order : Order) (bs : Bytes) :
    (units order bs).1.flatMap (unitOctets order) = bs.take (bs.length / 2 * 2) := by
  induction bs using List.twoStepInduction with
  | nil => rfl
  | singleton b =>
    have hnone : [b].length / 2 * 2 = 0 := by rw [List.length_singleton]
    rw [hnone]
    rfl
  | cons_cons a b bs ih _ =>
    have hlength : (a :: b :: bs).length / 2 * 2 = bs.length / 2 * 2 + 1 + 1 := by
      rw [List.length_cons, List.length_cons]
      omega
    rw [units_cons_cons, List.flatMap_cons, unitOctets_unit, ih, hlength, List.take_succ_cons,
      List.take_succ_cons]
    rfl

/-! ## Units -/

theorem val_highUnit (p : Point) : (Point.ofNat (0xD800 + (p.val - 0x10000) / 0x400)).val =
    0xD800 + (p.val - 0x10000) / 0x400 :=
  Point.val_ofNat (by have := p.isLt; omega)

theorem val_lowUnit (p : Point) : (Point.ofNat (0xDC00 + (p.val - 0x10000) % 0x400)).val =
    0xDC00 + (p.val - 0x10000) % 0x400 :=
  Point.val_ofNat (by have := p.isLt; omega)

theorem lt_of_mem_unitsOf {p u : Point} (hu : u ∈ unitsOf p) : u.val < 0x10000 := by
  have hp := p.isLt
  rw [unitsOf] at hu
  split_ifs at hu with h
  · rwa [List.mem_singleton.mp hu]
  · rcases List.mem_pair.mp hu with hu | hu
    · have hval := (congrArg Fin.val hu).trans (val_highUnit p)
      omega
    · have hval := (congrArg Fin.val hu).trans (val_lowUnit p)
      omega

/-- The first unit of a point closes no pair unless the point does. -/
theorem isLowSurrogate_of_head_unitsOf {p u : Point} {us : List Point}
    (hu : u ∈ (unitsOf p ++ us).head?) (hl : u.isLowSurrogate = true) :
    p.isLowSurrogate = true := by
  have hp := p.isLt
  rw [unitsOf] at hu
  split_ifs at hu with h
  · rwa [Option.some.inj hu]
  · rw [← Option.some.inj hu, Point.isLowSurrogate_iff, val_highUnit p] at hl
    omega

theorem pairUp_cons {u : Point} {us : List Point}
    (h : ∀ v ∈ us.head?, ¬ (u.isHighSurrogate = true ∧ v.isLowSurrogate = true)) :
    pairUp (u :: us) = u :: pairUp us := by
  cases us with
  | nil => rfl
  | cons v us => rw [pairUp, if_neg (by simpa using h v rfl)]

theorem pairUp_unitsOf_append {p : Point} {us : List Point}
    (h : ∀ v ∈ us.head?, ¬ (p.isHighSurrogate = true ∧ v.isLowSurrogate = true)) :
    pairUp (unitsOf p ++ us) = p :: pairUp us := by
  rw [unitsOf]
  split_ifs with hp
  · exact pairUp_cons h
  · have hlt := p.isLt
    have hjoined : joined (Point.ofNat (0xD800 + (p.val - 0x10000) / 0x400))
        (Point.ofNat (0xDC00 + (p.val - 0x10000) % 0x400)) = p := by
      refine Fin.ext ?_
      simp only [joined, val_highUnit, val_lowUnit]
      exact (Point.val_ofNat (by omega)).trans (by omega)
    rw [List.cons_append, List.singleton_append, pairUp, if_pos, hjoined]
    rw [Bool.and_eq_true, Point.isHighSurrogate_iff, Point.isLowSurrogate_iff, val_highUnit,
      val_lowUnit]
    omega

variable {us : List Point}

theorem val_joined {u v : Point} (hu : u.isHighSurrogate = true) (hv : v.isLowSurrogate = true) :
    (joined u v).val = 0x10000 + (u.val - 0xD800) * 0x400 + (v.val - 0xDC00) := by
  rw [Point.isHighSurrogate_iff] at hu
  rw [Point.isLowSurrogate_iff] at hv
  exact Point.val_ofNat (by omega)

theorem unitsOf_joined {u v : Point} (hu : u.isHighSurrogate = true)
    (hv : v.isLowSurrogate = true) : unitsOf (joined u v) = [u, v] := by
  have hval := val_joined hu hv
  rw [Point.isHighSurrogate_iff] at hu
  rw [Point.isLowSurrogate_iff] at hv
  have hhigh : 0xD800 + ((joined u v).val - 0x10000) / 0x400 = u.val := by omega
  have hlow : 0xDC00 + ((joined u v).val - 0x10000) % 0x400 = v.val := by omega
  rw [unitsOf, if_neg (by omega), hhigh, hlow, Point.ofNat_val, Point.ofNat_val]

theorem flatMap_unitsOf_pairUp (hus : ∀ u ∈ us, u.val < 0x10000) :
    (pairUp us).flatMap unitsOf = us := by
  induction us using pairUp.induct with
  | case1 => rfl
  | case2 u =>
    rw [pairUp, List.flatMap_singleton, unitsOf, if_pos (hus u List.mem_cons_self)]
  | case3 u v us hpair ih =>
    obtain ⟨hu, hv⟩ := Bool.and_eq_true_iff.mp hpair
    obtain ⟨-, -, hus⟩ := List.forall_mem_cons.mp hus |>.imp_right List.forall_mem_cons.mp
    rw [pairUp, if_pos hpair, List.flatMap_cons, unitsOf_joined hu hv, ih hus]
    rfl
  | case4 u v us hpair ih =>
    obtain ⟨hu, hus⟩ := List.forall_mem_cons.mp hus
    rw [pairUp, if_neg hpair, List.flatMap_cons, unitsOf, if_pos hu, ih hus]
    rfl

/-- The first point is a low surrogate only where the first unit is. -/
theorem isLowSurrogate_of_head_pairUp {p : Point} (hp : p ∈ (pairUp us).head?)
    (hl : p.isLowSurrogate = true) : us.head? = some p := by
  cases us using pairUp.induct with
  | case1 => exact hp
  | case2 u => exact hp
  | case3 u v us hpair ih =>
    obtain ⟨hu, hv⟩ := Bool.and_eq_true_iff.mp hpair
    rw [pairUp, if_pos hpair] at hp
    have hval := val_joined hu hv
    have hlow := Point.isLowSurrogate_iff.mp hl
    rw [Option.some.inj hp] at hval
    omega
  | case4 u v us hpair ih =>
    rw [pairUp, if_neg hpair] at hp
    exact hp

/-! ## Texts -/

/-- No high surrogate stands directly before a low one. -/
def Unpaired (s : Text) : Prop :=
  s.IsChain fun p q => ¬ (p.isHighSurrogate = true ∧ q.isLowSurrogate = true)

instance (s : Text) : Decidable (Unpaired s) := inferInstanceAs (Decidable (List.IsChain _ s))

theorem unpaired_of_isWhole {s : Text} (hs : s.IsWhole) : Unpaired s := by
  induction s with
  | nil => exact .nil
  | cons p s ih =>
    obtain ⟨hp, hs⟩ := List.forall_mem_cons.mp hs
    refine List.isChain_cons.mpr ⟨fun q _ h => ?_, ih hs⟩
    have hhigh := Point.isHighSurrogate_iff.mp h.1
    simp only [Point.isSurrogate, Bool.and_eq_false_iff, decide_eq_false_iff_not] at hp
    omega

theorem pairUp_flatMap_unitsOf {s : Text} (hs : Unpaired s) : pairUp (s.flatMap unitsOf) = s := by
  induction s with
  | nil => rfl
  | cons p s ih =>
    -- A high surrogate of the text may be the last unit before those of the next point.
    have hh : ∀ v ∈ (s.flatMap unitsOf).head?,
        ¬ (p.isHighSurrogate = true ∧ v.isLowSurrogate = true) := by
      intro v hv
      cases s with
      | nil => cases hv
      | cons q s =>
        rintro ⟨hp, hl⟩
        exact (List.isChain_cons_cons.mp hs).1 ⟨hp, isLowSurrogate_of_head_unitsOf hv hl⟩
    rw [List.flatMap_cons, pairUp_unitsOf_append hh, ih hs.tail]

theorem unpaired_pairUp (us : List Point) : Unpaired (pairUp us) := by
  induction us using pairUp.induct with
  | case1 => exact List.isChain_nil
  | case2 u => exact List.isChain_singleton u
  | case3 u v us hpair ih =>
    obtain ⟨hu, hv⟩ := Bool.and_eq_true_iff.mp hpair
    have hval := val_joined hu hv
    rw [pairUp, if_pos hpair]
    refine List.isChain_cons.mpr ⟨fun q _ h => ?_, ih⟩
    have := Point.isHighSurrogate_iff.mp h.1
    omega
  | case4 u v us hpair ih =>
    rw [pairUp, if_neg hpair]
    refine List.isChain_cons.mpr ⟨fun q hq h => ?_, ih⟩
    obtain rfl := Option.some.inj (isLowSurrogate_of_head_pairUp hq h.2)
    exact hpair (Bool.and_eq_true_iff.mpr h)

/-- **A text without pairs of surrogates is read as it was written.** -/
theorem decode_encode {s : Text} (hs : Unpaired s) : decode (encode .lowFirst s) = s := by
  have hu : ∀ u ∈ s.flatMap unitsOf, u.val < 0x10000 := by
    intro u hu
    obtain ⟨p, -, hp⟩ := List.mem_flatMap.mp hu
    exact lt_of_mem_unitsOf hp
  rw [decode, encode, units_flatMap_unitOctets .lowFirst hu, pairUp_flatMap_unitsOf hs]

/-- **Octets in pairs are written as they were read.** -/
theorem encode_decode {bs : Bytes} (h : Even bs.length) : encode .lowFirst (decode bs) = bs := by
  rw [encode, decode, flatMap_unitsOf_pairUp lt_of_mem_units, flatMap_unitOctets_units,
    Nat.div_two_mul_two_of_even h, List.take_length]

theorem unpaired_decode (bs : Bytes) : Unpaired (decode bs) := unpaired_pairUp _

/-- An octet at the end that stands in no pair is not read. -/
theorem decode_take (bs : Bytes) : decode (bs.take (bs.length / 2 * 2)) = decode bs := by
  rw [decode, ← flatMap_unitOctets_units .lowFirst,
    units_flatMap_unitOctets .lowFirst lt_of_mem_units, decode]

theorem even_length_encode (order : Order) (s : Text) : Even (encode order s).length := by
  have hunit : ∀ u, (unitOctets order u).length = 2 := by
    intro u
    cases order <;> rfl
  rw [encode, List.length_flatMap]
  induction s.flatMap unitsOf with
  | nil => exact Even.zero
  | cons u us ih =>
    rw [List.map_cons, List.sum_cons, hunit]
    exact Even.add ⟨1, rfl⟩ ih

theorem unpaired_append_nul_cons {s t : Text} (hs : Unpaired s) (ht : Unpaired t) :
    Unpaired (s ++ Point.nul :: t) := by
  have hnul : Point.nul.isHighSurrogate = false ∧ Point.nul.isLowSurrogate = false := by decide
  refine List.isChain_append.mpr ⟨hs, List.isChain_cons.mpr ⟨fun q _ h => ?_, ht⟩, ?_⟩
  · rw [hnul.1] at h
    exact Bool.noConfusion h.1
  · rintro p - q hq ⟨-, hl⟩
    rw [← Option.some.inj hq, hnul.2] at hl
    exact Bool.noConfusion hl

/-! ## Lengths -/

theorem length_units (order : Order) (bs : Bytes) :
    2 * (units order bs).1.length + (units order bs).2.toNat = bs.length := by
  induction bs using List.twoStepInduction with
  | nil => rfl
  | singleton b => rfl
  | cons_cons a b bs ih _ =>
    have hodd : (units order (a :: b :: bs)).2 = (units order bs).2 := rfl
    rw [units_cons_cons, hodd, List.length_cons, List.length_cons, List.length_cons]
    omega

theorem length_pairUp_le (us : List Point) : (pairUp us).length ≤ us.length := by
  induction us using pairUp.induct with
  | case1 => exact Nat.le_refl 0
  | case2 u => exact Nat.le_refl 1
  | case3 u v us hpair ih =>
    rw [pairUp, if_pos hpair, List.length_cons, List.length_cons, List.length_cons]
    omega
  | case4 u v us hpair ih =>
    rw [pairUp, if_neg hpair]
    exact Nat.succ_le_succ ih

theorem length_decodeLossy_le (order : Order) (bs : Bytes) :
    (decodeLossy order bs).length ≤ bs.length := by
  have hunits := length_units order bs
  have hpairs := length_pairUp_le (units order bs).1
  rw [decodeLossy]
  dsimp only
  split_ifs with hodd
  · rw [(Bool.and_eq_true_iff.mp hodd).1, Bool.toNat_true] at hunits
    rw [List.length_append, List.length_map, List.length_singleton]
    omega
  · rw [List.length_map]
    omega

end Utf16

end HiveScript
