import HiveScript.Value.Basic
import Mathlib.Algebra.Field.Rat
import Mathlib.Algebra.Group.Basic
import Mathlib.Algebra.GroupWithZero.Basic
import Mathlib.Data.List.Induction
import Mathlib.Data.Rat.Cast.Defs
import Mathlib.Tactic.NormNum
import Mathlib.Tactic.Ring

/-!
# Keys of mappings

Scalars are one key when they count the same, whatever they are written as.

* `Scalar.Key`: what a scalar counts as a key; **`Scalar.equals_iff`**.
* `Entries.find?_put`, `Entries.find?_ofList`: looking up what was put.
* `Entries.Distinct`: mappings in which no key comes twice.
-/

namespace HiveScript

/-- What a scalar counts as a key. -/
inductive Scalar.Key where
  | number (q : ℚ)
  | infinity (negative : Bool)
  | noNumber
  /-- A moment, and whether the difference to universal time is told. -/
  | moment (told : Bool) (m : Int)
  | single (s : Scalar)

/-! ## Numbers -/

namespace Binary64

/-- A number as a key. -/
def key : Binary64 → Scalar.Key
  | nan => .noNumber
  | infinite a => .infinity a
  | finite a m e => .number (signed a m * 2 ^ e)

theorem cast_twoTo (k : Nat) : ((twoTo k : Nat) : ℚ) = 2 ^ k := by
  rw [twoTo, Nat.pow_eq, Nat.cast_pow]
  rfl

theorem cast_signed_mul_twoTo (a : Bool) (m k : Nat) :
    (signed a (m * twoTo k) : ℚ) = signed a m * 2 ^ k := by
  cases a <;> simp [signed, cast_twoTo]

theorem two_zpow_ne_zero (e : Int) : (2 : ℚ) ^ e ≠ 0 := zpow_ne_zero e two_ne_zero

/-- A power of two as one above a lower power. -/
theorem two_zpow_eq {e low : Int} (h : low ≤ e) : (2 : ℚ) ^ e = 2 ^ (e - low).toNat * 2 ^ low := by
  rw [← zpow_natCast, Int.toNat_of_nonneg (by omega), ← zpow_add₀ two_ne_zero, Int.sub_add_cancel]

theorem equals_finite_iff (a b : Bool) (m n : Nat) (e f : Int) :
    (finite a m e).equals (finite b n f) = true ↔ (finite a m e).key = (finite b n f).key := by
  have hscaled : (signed a m * 2 ^ e : ℚ) = signed b n * 2 ^ f ↔
      (signed a (m * twoTo (e - min e f).toNat) : ℚ) =
        signed b (n * twoTo (f - min e f).toNat) := by
    rw [two_zpow_eq (min_le_left e f), two_zpow_eq (min_le_right e f), ← mul_assoc, ← mul_assoc,
      mul_left_inj' (two_zpow_ne_zero _), cast_signed_mul_twoTo, cast_signed_mul_twoTo]
  rw [key, key, Scalar.Key.number.injEq, hscaled, Int.cast_inj]
  exact decide_eq_true_iff

/-- **Numbers are equal when they are one key**, but what is no number is not equal to itself. -/
theorem equals_iff {x y : Binary64} : x.equals y = true ↔ x ≠ nan ∧ x.key = y.key := by
  cases x with
  | nan => exact ⟨nofun, fun h => absurd rfl h.1⟩
  | infinite a => cases y <;> simp [equals, key]
  | finite a m e =>
    rw [and_iff_right (by exact nofun)]
    cases y with
    | finite b n f => exact equals_finite_iff a b m n e f
    | nan | infinite b => exact ⟨nofun, nofun⟩

theorem equalsInt_iff {x : Binary64} {i : Int} : x.equalsInt i = true ↔ x.key = .number i := by
  cases x with
  | nan | infinite a => exact ⟨nofun, nofun⟩
  | finite a m e =>
    rw [key, Scalar.Key.number.injEq, equalsInt]
    by_cases he : 0 ≤ e
    · have hpower := two_zpow_eq he
      rw [zpow_zero, mul_one, Int.sub_zero] at hpower
      rw [if_pos he, decide_eq_true_iff, hpower, ← cast_signed_mul_twoTo, Int.cast_inj]
    · -- Both sides are so many times the power, which is a fraction of one.
      have hone := two_zpow_eq (not_le.mp he).le
      rw [zpow_zero, Int.zero_sub] at hone
      rw [if_neg he, decide_eq_true_iff, ← mul_one (i : ℚ), hone, ← mul_assoc,
        mul_left_inj' (two_zpow_ne_zero e), ← cast_twoTo]
      norm_cast

theorem key_eq_noNumber_iff {x : Binary64} : x.key = .noNumber ↔ x = nan := by
  cases x <;> simp [key]

@[simp]
theorem key_ne_single (x : Binary64) (s : Scalar) : x.key ≠ .single s := by
  cases x <;> exact nofun

@[simp]
theorem key_ne_moment (x : Binary64) (told : Bool) (m : Int) : x.key ≠ .moment told m := by
  cases x <;> exact nofun

end Binary64

namespace Scalar

/-! ## Scalars as keys -/

/-- A scalar as a key. -/
def key : Scalar → Key
  | float x => x.key
  | dateTime t => .moment t.offset.isSome t.moment
  | null => .single null
  | bool b => .number (ofBool b)
  | int i => .number i
  | text s => .single (text s)
  | date d => .single (date d)

theorem float_equals_iff {x y : Binary64} : (float x).equals (float y) = true ↔ x.key = y.key := by
  have hnan := Binary64.key_eq_noNumber_iff (x := x)
  have hnan' := Binary64.key_eq_noNumber_iff (x := y)
  rw [equals, Bool.or_eq_true, Bool.and_eq_true, decide_eq_true_iff, decide_eq_true_iff,
    Binary64.equals_iff, ← hnan, ← hnan']
  constructor
  · rintro (⟨-, h⟩ | ⟨hx, hy⟩)
    · exact h
    · exact hx.trans hy.symm
  · intro h
    by_cases hx : x.key = .noNumber
    · exact .inr ⟨hx, h.symm.trans hx⟩
    · exact .inl ⟨fun hxn => hx (hnan.mpr hxn), h⟩

/-- **Scalars are equal when they are one key.** So this is an equivalence. -/
theorem equals_iff {a b : Scalar} : a.equals b = true ↔ a.key = b.key := by
  cases a with
  | float x =>
    cases b with
    | float y => exact float_equals_iff
    | _ => simp [equals, key, int?, Binary64.equalsInt_iff]
  | dateTime t => cases b <;> simp [equals, key, int?, DateTime.equals, DateTime.areComparable,
      (Binary64.key_ne_moment _ _ _).symm]
  | bool _ | int _ =>
    cases b with
    | float y => exact Binary64.equalsInt_iff.trans eq_comm
    | _ => simp [equals, key, int?]
  | null | text _ | date _ =>
    cases b <;> simp [equals, key, int?, (Binary64.key_ne_single _ _).symm]

theorem eq_text_of_key_eq {k : Scalar} {s : Text} (h : k.key = (text s).key) : k = text s := by
  cases k with
  | float x => exact absurd h (Binary64.key_ne_single _ _)
  | null | bool _ | int _ | date _ | dateTime _ => simp [key] at h
  | text t => simpa [key] using h

end Scalar

/-! ## Looking up -/

namespace Entries

variable {k k' : Scalar} {v : Value} {es : Entries} {e : Scalar × Value}

theorem find?_eq (k : Scalar) (es : Entries) :
    find? k es = (List.find? (fun e => e.1.equals k) es).map (·.2) := rfl

theorem find?_cons_of_eq (h : e.1.key = k.key) : find? k (e :: es) = some e.2 := by
  have hfound : List.find? (fun e => e.1.equals k) (e :: es) = some e :=
    List.find?_cons_of_pos (Scalar.equals_iff.mpr h)
  rw [find?_eq, hfound]
  rfl

theorem find?_cons_of_ne (h : e.1.key ≠ k.key) : find? k (e :: es) = find? k es := by
  have hrest : List.find? (fun e => e.1.equals k) (e :: es) =
      List.find? (fun e => e.1.equals k) es :=
    List.find?_cons_of_neg fun he => h (Scalar.equals_iff.mp he)
  rw [find?_eq, hrest, find?_eq]

/-- What is found stands in an entry with that key. -/
theorem exists_of_find?_eq_some (h : find? k es = some v) :
    ∃ e ∈ es, e.1.key = k.key ∧ e.2 = v := by
  obtain ⟨e, he, rfl⟩ := Option.map_eq_some_iff.mp h
  exact ⟨e, List.mem_of_find?_eq_some he, Scalar.equals_iff.mp (by simpa using List.find?_some he),
    rfl⟩

theorem find?_eq_none_iff : find? k es = none ↔ ∀ e ∈ es, e.1.key ≠ k.key := by
  rw [find?_eq, Option.map_eq_none_iff, List.find?_eq_none]
  exact forall₂_congr fun e _ => not_congr Scalar.equals_iff

theorem find?_congr (h : k.key = k'.key) : find? k es = find? k' es := by
  have hpred : (fun e : Scalar × Value => e.1.equals k) = fun e => e.1.equals k' := funext fun e =>
    Bool.eq_iff_iff.mpr (by rw [Scalar.equals_iff, Scalar.equals_iff, h])
  rw [find?_eq, find?_eq, hpred]

theorem find?_put_self (h : k.key = k'.key) (v : Value) (es : Entries) :
    find? k' (put k v es) = some v := by
  induction es with
  | nil => exact find?_cons_of_eq h
  | cons e es ih =>
    rw [put]
    split_ifs with he
    · exact find?_cons_of_eq ((Scalar.equals_iff.mp he).trans h)
    · rw [find?_cons_of_ne (fun he' => he (Scalar.equals_iff.mpr (he'.trans h.symm))), ih]

theorem find?_put_of_ne (h : k.key ≠ k'.key) (v : Value) (es : Entries) :
    find? k' (put k v es) = find? k' es := by
  induction es with
  | nil => exact find?_cons_of_ne h
  | cons e es ih =>
    rw [put]
    split_ifs with he
    · have hne : e.1.key ≠ k'.key := fun he' => h ((Scalar.equals_iff.mp he).symm.trans he')
      rw [find?_cons_of_ne (e := e) hne, find?_cons_of_ne (e := (e.1, v)) hne]
    · by_cases he' : e.1.key = k'.key
      · rw [find?_cons_of_eq he', find?_cons_of_eq he']
      · rw [find?_cons_of_ne he', find?_cons_of_ne he', ih]

/-! ## Mappings without repeated keys -/

/-- No key comes twice. -/
def Distinct (es : Entries) : Prop := (es.map fun e => e.1.key).Nodup

theorem distinct_nil : Distinct [] := List.nodup_nil

/-- The entries of what was put: the new one, and old ones. -/
theorem mem_put (he : e ∈ put k v es) : e.2 = v ∧ e.1.key = k.key ∨ e ∈ es := by
  induction es with
  | nil => exact .inl (by rw [List.mem_singleton.mp he]; exact ⟨rfl, rfl⟩)
  | cons e' es ih =>
    rw [put] at he
    split_ifs at he with hk
    · rcases List.mem_cons.mp he with rfl | he
      · exact .inl ⟨rfl, Scalar.equals_iff.mp hk⟩
      · exact .inr (List.mem_cons_of_mem _ he)
    · rcases List.mem_cons.mp he with rfl | he
      · exact .inr List.mem_cons_self
      · exact (ih he).imp_right (List.mem_cons_of_mem _)

theorem Distinct.put (h : Distinct es) (k : Scalar) (v : Value) : Distinct (put k v es) := by
  induction es with
  | nil => exact List.pairwise_singleton _ _
  | cons e es ih =>
    obtain ⟨hnew, hes⟩ := List.nodup_cons.mp h
    rw [Entries.put]
    split_ifs with hk
    · exact h
    · refine List.nodup_cons.mpr ⟨fun hmem => ?_, ih hes⟩
      obtain ⟨e', he', hkey⟩ := List.mem_map.mp hmem
      rcases mem_put he' with ⟨-, he'⟩ | he'
      · exact hk (Scalar.equals_iff.mpr (hkey.symm.trans he'))
      · exact hnew (hkey ▸ List.mem_map_of_mem he')

/-! ## Mappings of entries in order -/

theorem ofList_concat (es : List (Scalar × Value)) (e : Scalar × Value) :
    ofList (es ++ [e]) = put e.1 e.2 (ofList es) := by
  rw [ofList, ofList, List.foldl_append]
  rfl

/-- Of entries in order those of a key that come last count. -/
theorem find?_ofList (k : Scalar) (es : List (Scalar × Value)) :
    find? k (ofList es) = find? k es.reverse := by
  induction es using List.reverseRecOn with
  | nil => rfl
  | append_singleton es e ih =>
    rw [ofList_concat, List.reverse_concat]
    by_cases he : e.1.key = k.key
    · rw [find?_put_self he, find?_cons_of_eq he]
    · rw [find?_put_of_ne he, find?_cons_of_ne he, ih]

theorem distinct_ofList (es : List (Scalar × Value)) : Distinct (ofList es) := by
  induction es using List.reverseRecOn with
  | nil => exact distinct_nil
  | append_singleton es e ih =>
    rw [ofList_concat]
    exact ih.put _ _

theorem mem_ofList {es : List (Scalar × Value)} (he : e ∈ ofList es) :
    ∃ e' ∈ es, e.2 = e'.2 ∧ e.1.key = e'.1.key := by
  induction es using List.reverseRecOn with
  | nil => exact absurd he List.not_mem_nil
  | append_singleton es e' ih =>
    rw [ofList_concat] at he
    rcases mem_put he with h | he
    · exact ⟨e', List.mem_append_right _ List.mem_cons_self, h⟩
    · obtain ⟨e'', hmem, h⟩ := ih he
      exact ⟨e'', List.mem_append_left _ hmem, h⟩

end Entries

end HiveScript
