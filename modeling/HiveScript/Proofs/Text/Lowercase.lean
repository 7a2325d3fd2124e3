import HiveScript.Proofs.Text.Decimal
import HiveScript.Text.Lowercase

/-!
# Lowercase

What lowercase does to the length of a text and to its end. A capital sigma makes the small letters
of a beginning depend on what follows, so that texts with a common beginning need not keep one.

* `length_lowercase`: a text gets longer by its capital I with dot above.
* `exists_lowercase_append`: small points at the end of a text stay there.
-/

namespace HiveScript

/-- A point that is its own small letter wherever it stands. -/
def Point.IsSmall (p : Point) : Prop :=
  p ≠ Point.capitalSigma ∧ p ≠ Point.capitalDottedI ∧ p.lowercase = p

/-- Below the Latin letters with marks, all capitals are those of ASCII. -/
theorem Point.isSmall_of_lt {p : Point} (hp : p.val < 0x41 ∨ 0x5A < p.val ∧ p.val < 0xC0) :
    p.IsSmall := by
  have hruns : ∀ r ∈ lowercaseRuns, 0x41 ≤ r.1 ∧ r.2.1 ≤ 0x5A ∨ 0xC0 ≤ r.1 := by decide +kernel
  have hlt : p.val < 0xC0 := by omega
  refine ⟨?_, ?_, ?_⟩
  · rintro rfl
    exact absurd hlt (by decide)
  · rintro rfl
    exact absurd hlt (by decide)
  · have hnone : lowercaseRuns.find? (fun r =>
        r.1 ≤ p.val && p.val ≤ r.2.1 && (p.val - r.1) % r.2.2.1 == 0) = none := by
      rw [List.find?_eq_none]
      intro r hr
      have := hruns r hr
      simp only [Bool.and_eq_true, decide_eq_true_eq, not_and]
      omega
    rw [Point.lowercase, hnone]

theorem Point.isSmall_of_isDigit {p : Point} (hp : p.isDigit = true) : p.IsSmall := by
  refine Point.isSmall_of_lt (.inl ?_)
  simp [Point.isDigit, Ranges.has] at hp
  omega

namespace Text

theorem lowercaseAfter_of_isSmall {t : Text} (ht : ∀ p ∈ t, p.IsSmall) (before : Text) :
    lowercaseAfter before t = t := by
  induction t generalizing before with
  | nil => rfl
  | cons p t ih =>
    rw [List.forall_mem_cons] at ht
    obtain ⟨⟨hsigma, hdotted, hlower⟩, ht⟩ := ht
    rw [lowercaseAfter, if_neg hsigma, if_neg hdotted, hlower, ih ht, List.singleton_append]

theorem length_lowercaseAfter (before s : Text) :
    (lowercaseAfter before s).length = s.length + s.count Point.capitalDottedI := by
  induction s generalizing before with
  | nil => rfl
  | cons p s ih =>
    rw [lowercaseAfter, List.length_append, ih, List.length_cons, List.count_cons]
    by_cases hdotted : p = Point.capitalDottedI
    · rw [hdotted, if_neg (by decide), if_pos rfl, if_pos (beq_self_eq_true _)]
      simp only [List.length_cons, List.length_nil]
      omega
    · rw [if_neg (c := (p == Point.capitalDottedI) = true) (by simpa using hdotted)]
      -- Every other point becomes one point, the two forms of sigma included.
      split_ifs <;> simp only [List.length_cons, List.length_nil] <;> omega

theorem length_lowercase (s : Text) :
    s.lowercase.length = s.length + s.count Point.capitalDottedI := length_lowercaseAfter [] s

theorem exists_lowercaseAfter_append {t : Text} (ht : ∀ p ∈ t, p.IsSmall) (before s : Text) :
    ∃ u, lowercaseAfter before (s ++ t) = u ++ t := by
  induction s generalizing before with
  | nil => exact ⟨[], lowercaseAfter_of_isSmall ht before⟩
  | cons p s ih =>
    obtain ⟨u, hu⟩ := ih (p :: before)
    rw [List.cons_append, lowercaseAfter, hu, ← List.append_assoc]
    exact ⟨_, rfl⟩

theorem exists_lowercase_append {t : Text} (ht : ∀ p ∈ t, p.IsSmall) (s : Text) :
    ∃ u, (s ++ t).lowercase = u ++ t := exists_lowercaseAfter_append ht [] s

end Text

end HiveScript
