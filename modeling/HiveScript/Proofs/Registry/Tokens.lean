import HiveScript.Proofs.Registry.Payload
import HiveScript.Proofs.Text.Notation

/-!
# Tokens of payloads

A list of octets has a number for each of its tokens. Tokens in the strict notation count as what
they denote. The liberal notation is taken as well, so that not all others count as zero.

* `tokenValue_of_denotes`, `tokenValue_of_not_denotes`: the number of a token.
* `strictValue`: the number of a token where the strict notation alone is taken.
* **`numbers_strict_iff`**: the numbers of a list, and when they are those.
-/

namespace HiveScript

namespace Numeral

/-- Behind blanks there are none of the blanks that reading skips. -/
theorem trimBy_isMargin_trim (s : Text) : s.trim.trimBy isMargin = s.trim := by
  have hmargin : ∀ {p : Point}, p.isBlank = false → isMargin p = false := fun hp => by
    rw [isMargin, hp, Bool.false_and]
  exact Text.trimBy_eq_self (fun p hp => hmargin (Text.eq_false_of_mem_head?_trimBy hp)) fun p hp =>
    hmargin (Text.eq_false_of_mem_getLast?_trimBy hp)

-- The search for instances would go through all points instead of those of the text.
instance (w : Text) : Decidable (IsHexNumeral w) :=
  decidable_of_iff (w ≠ [] ∧ w.all Point.isHexDigit = true)
    (and_congr_right fun _ => List.all_eq_true)

theorem denotes_of_isHexNumeral {w : Text} (h : IsHexNumeral w) : Denotes w (hexValue w) :=
  .plain (.bare (spells_of_readDigits h.1
    (fun hp => Point.ne_ofChar_of_isHexDigit (h.2 _ (List.mem_of_mem_head? hp)) rfl rfl)
    (readDigits_of_isHexDigit h.2)))

end Numeral

namespace Payload

open Numeral

/-! ## Single tokens -/

theorem tokenValue_of_denotes {t : Text} {i : Int} (h : Denotes t.trim i) : tokenValue t = i := by
  rw [← trimBy_isMargin_trim] at h
  rw [tokenValue, read_eq_ok_iff.mpr h]

theorem tokenValue_of_not_denotes {t : Text} (h : ∀ i, ¬ Denotes t.trim i) : tokenValue t = 0 := by
  rw [tokenValue]
  split
  · next i hi =>
    rw [read_eq_ok_iff, trimBy_isMargin_trim] at hi
    exact absurd hi (h i)
  · rfl

/-- The number of a token where one or more hexadecimal digits of ASCII count as what they denote,
and all else as zero. -/
def strictValue (t : Text) : Int := if IsHexNumeral t.trim then hexValue t.trim else 0

/-- The number of a token: what it denotes, and zero if it denotes nothing. -/
inductive Counts (t : Text) : Int → Prop
  | numeral {i : Int} (denotes : Denotes t.trim i) : Counts t i
  | other (none : ∀ i, ¬ Denotes t.trim i) : Counts t 0

theorem counts_tokenValue (t : Text) : Counts t (tokenValue t) := by
  by_cases h : ∃ i, Denotes t.trim i
  · obtain ⟨i, hi⟩ := h
    exact tokenValue_of_denotes hi ▸ .numeral hi
  · have hnone : ∀ i, ¬ Denotes t.trim i := fun i hi => h ⟨i, hi⟩
    exact tokenValue_of_not_denotes hnone ▸ .other hnone

theorem tokenValue_of_isHexNumeral {t : Text} (h : IsHexNumeral t.trim) :
    tokenValue t = hexValue t.trim :=
  tokenValue_of_denotes (denotes_of_isHexNumeral h)

/-- Only what is not strict, and denotes something else than zero, counts as it should not. -/
theorem tokenValue_eq_strictValue_iff {t : Text} : tokenValue t = strictValue t ↔
    ∀ i, Denotes t.trim i → i ≠ 0 → IsHexNumeral t.trim := by
  rw [strictValue]
  by_cases hstrict : IsHexNumeral t.trim
  · rw [if_pos hstrict]
    exact iff_of_true (tokenValue_of_isHexNumeral hstrict) fun _ _ _ => hstrict
  · rw [if_neg hstrict]
    constructor
    · intro hzero i hi hne
      exact absurd ((tokenValue_of_denotes hi).symm.trans hzero) hne
    · intro h
      by_contra hne
      obtain ⟨i, hi⟩ : ∃ i, Denotes t.trim i := by
        by_contra hnone
        exact hne (tokenValue_of_not_denotes fun i hi => hnone ⟨i, hi⟩)
      rw [tokenValue_of_denotes hi] at hne
      exact hstrict (h i hi hne)

/-! ## Lists -/

/-- **The numbers of a list.**

There is one for each token between commas, which is what the token denotes, or zero if it denotes
nothing; of one or more hexadecimal digits of ASCII it is their value. All other tokens count as
zero if and only if those that denote something in the liberal notation denote zero. -/
theorem numbers_strict_iff (s : Text) :
    (numbers s).length = s.count (Point.ofChar ',') + 1 ∧
      List.Forall₂ (fun t n => Counts t n ∧ (IsHexNumeral t.trim → n = hexValue t.trim))
        (s.fields (· = Point.ofChar ',')) (numbers s) ∧
      (numbers s = (s.fields (· = Point.ofChar ',')).map strictValue ↔
        ∀ t ∈ s.fields (· = Point.ofChar ','), ∀ i, Denotes t.trim i → i ≠ 0 →
          IsHexNumeral t.trim) := by
  refine ⟨?_, ?_, ?_⟩
  · rw [numbers, List.length_map, Text.length_fields]
    rfl
  · rw [numbers, List.forall₂_map_right_iff, List.forall₂_same]
    exact fun t _ => ⟨counts_tokenValue t, tokenValue_of_isHexNumeral⟩
  · rw [numbers, List.map_inj_left]
    exact forall₂_congr fun t _ => tokenValue_eq_strictValue_iff

/-- A sign, a mark, a low line and the digits of another script are taken, and none of these tokens
is strict. -/
theorem numbers_liberal :
    numbers "-1,0x1F,1_0,\u0663" = [-1, 0x1F, 0x10, 3] ∧
      ∀ t ∈ (Text.ofString "-1,0x1F,1_0,\u0663").fields (· = Point.ofChar ','),
        strictValue t = 0 := by
  refine ⟨?_, ?_⟩
  · decide +kernel
  · decide +kernel

end Payload

end HiveScript
