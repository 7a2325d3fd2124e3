import HiveScript.Batch.Targets
import HiveScript.Proofs.Text.Delimiters
import HiveScript.Proofs.Text.Lowercase
import Mathlib.Data.List.Nodup
import Mathlib.Data.List.Perm.Subperm

/-!
# Candidates

The names that a script may get are told apart without regard to capitals, so that one of them is
always free.

* `lowercase_candidate_injective`: the small letters of a candidate tell its number.
* **`lowercase_candidate_choose_notMem`**: the chosen candidate is free.
* `ScriptName`: the names that scripts get in a directory.
-/

namespace HiveScript.Targets

/-! ## Telling candidates apart -/

/-- What a candidate adds to the stem. -/
def candidateEnd (n : Nat) : Text :=
  if n = 1 then scriptExtension else "-" ++ Numeral.decimal n ++ scriptExtension

theorem candidate_eq (stem : Text) (n : Nat) : candidate stem n = stem ++ candidateEnd n := by
  rw [candidate, candidateEnd]
  split_ifs with h
  · rfl
  · rw [List.append_assoc, List.append_assoc, List.append_assoc]

theorem isSmall_of_mem_scriptExtension {p : Point} (hp : p ∈ scriptExtension) : p.IsSmall := by
  have hrange : scriptExtension.all fun p => p.val < 0x41 ∨ 0x5A < p.val ∧ p.val < 0xC0 := by decide
  exact Point.isSmall_of_lt (by simpa using List.all_eq_true.mp hrange p hp)

theorem isSmall_of_mem_candidateEnd {n : Nat} {p : Point} (hp : p ∈ candidateEnd n) :
    p.IsSmall := by
  rw [candidateEnd] at hp
  split_ifs at hp
  · exact isSmall_of_mem_scriptExtension hp
  · rcases List.mem_append.mp hp with hp | hp
    · rcases List.mem_append.mp hp with hp | hp
      · rw [List.mem_singleton.mp hp]
        exact Point.isSmall_of_lt (.inl (by decide))
      · exact Point.isSmall_of_isDigit (Numeral.isDigit_of_mem_decimal hp)
    · exact isSmall_of_mem_scriptExtension hp

theorem length_lowercase_candidate (stem : Text) (n : Nat) :
    (candidate stem n).lowercase.length =
      stem.length + stem.count Point.capitalDottedI + (candidateEnd n).length := by
  have hsmall : (candidateEnd n).count Point.capitalDottedI = 0 :=
    List.count_eq_zero_of_not_mem fun h => (isSmall_of_mem_candidateEnd h).2.1 rfl
  rw [candidate_eq, Text.length_lowercase, List.length_append, List.count_append, hsmall]
  omega

/-- The first candidate has no number, and so the shortest end. -/
theorem length_candidateEnd_one_lt {n : Nat} (hn : n ≠ 1) :
    (candidateEnd 1).length < (candidateEnd n).length := by
  rw [candidateEnd, candidateEnd, if_pos rfl, if_neg hn, List.length_append, List.length_append]
  have : (("-" : Text)).length = 1 := rfl
  omega

theorem hyphen_notMem_decimal (n : Nat) : Point.ofChar '-' ∉ Numeral.decimal n := fun h =>
  absurd (Numeral.isDigit_of_mem_decimal h) (by decide)

/-- **The small letters of a candidate tell its number.** -/
theorem lowercase_candidate_injective (stem : Text) :
    Function.Injective fun n => (candidate stem n).lowercase := by
  intro i j h
  have hlength : (candidateEnd i).length = (candidateEnd j).length := by
    have := congrArg List.length h
    rw [length_lowercase_candidate, length_lowercase_candidate] at this
    omega
  by_cases hi : i = 1
  · by_contra hij
    subst hi
    exact absurd hlength (length_candidateEnd_one_lt (Ne.symm hij)).ne
  by_cases hj : j = 1
  · subst hj
    exact absurd hlength.symm (length_candidateEnd_one_lt hi).ne
  -- Both have numbers, which stand between the last hyphen and the extension.
  obtain ⟨u, hu⟩ := Text.exists_lowercase_append (fun p => isSmall_of_mem_candidateEnd) stem
  obtain ⟨v, hv⟩ := Text.exists_lowercase_append (fun p => isSmall_of_mem_candidateEnd) stem
  replace h : u ++ candidateEnd i = v ++ candidateEnd j := by
    rw [← hu, ← hv, ← candidate_eq, ← candidate_eq]
    exact h
  rw [candidateEnd, candidateEnd, if_neg hi, if_neg hj, ← List.append_assoc u,
    ← List.append_assoc v, List.append_cancel_right_eq] at h
  exact Numeral.decimal_injective
    (Text.append_cons_inj_of_not_mem (hyphen_notMem_decimal i) (hyphen_notMem_decimal j) h).2

/-! ## The chosen candidate -/

/-- The search ends at a free candidate, or it has gone over as many taken ones as it may. -/
theorem lowercase_candidate_chooseFrom (taken : List Text) (stem : Text) (fuel n : Nat) :
    (candidate stem (chooseFrom taken stem fuel n)).lowercase ∉ taken ∨
      chooseFrom taken stem fuel n = n + fuel ∧
        ∀ k, n ≤ k → k < n + fuel → (candidate stem k).lowercase ∈ taken := by
  induction fuel generalizing n with
  | zero => exact .inr ⟨rfl, fun k hle hlt => absurd hlt (by omega)⟩
  | succ fuel ih =>
    rw [chooseFrom]
    split_ifs with hn
    · refine (ih (n + 1)).imp_right ?_
      rintro ⟨hend, htaken⟩
      refine ⟨by omega, fun k hle hlt => ?_⟩
      rcases Nat.eq_or_lt_of_le hle with rfl | hlt'
      · exact List.contains_iff_mem.mp hn
      · exact htaken k hlt' (by omega)
    · exact .inl fun h => hn (List.contains_iff_mem.mpr h)

/-- **The chosen candidate is free**, as there are more candidates than names that are taken. -/
theorem lowercase_candidate_choose_notMem (taken : List Text) (stem : Text) :
    (candidate stem (choose taken stem)).lowercase ∉ taken := by
  rcases lowercase_candidate_chooseFrom taken stem taken.length 1 with h | ⟨hend, htaken⟩
  · exact h
  intro hlast
  rw [choose, hend] at hlast
  set names := (List.range' 1 (taken.length + 1)).map fun n => (candidate stem n).lowercase
  have hnodup : names.Nodup := List.Nodup.map (lowercase_candidate_injective stem) List.nodup_range'
  have hsub : names ⊆ taken := by
    intro name hname
    obtain ⟨k, hk, rfl⟩ := List.mem_map.mp hname
    rw [List.mem_range'_1] at hk
    rcases Nat.eq_or_lt_of_le (Nat.lt_succ_iff.mp (show k < (1 + taken.length) + 1 by omega)) with
      rfl | hlt
    · exact hlast
    · exact htaken k hk.1 hlt
  have hlength := (List.Nodup.subperm hnodup hsub).length_le
  rw [List.length_map, List.length_range'] at hlength
  omega

/-! ## Names of scripts -/

/-- A name that a script gets in a directory. -/
def ScriptName (name : Text) : Prop := slash ∉ name ∧ scriptExtension <:+ name

theorem scriptName_candidate {stem : Text} (hstem : slash ∉ stem) (n : Nat) :
    ScriptName (candidate stem n) := by
  constructor
  · rw [candidate_eq, List.mem_append, not_or]
    refine ⟨hstem, ?_⟩
    rw [candidateEnd]
    split_ifs
    · decide
    · rw [List.mem_append, List.mem_append, not_or, not_or]
      exact ⟨⟨by decide, fun h => absurd (Numeral.isDigit_of_mem_decimal h) (by decide)⟩, by decide⟩
  · rw [candidate]
    split_ifs
    · exact List.suffix_append _ _
    · exact List.suffix_append _ _

end HiveScript.Targets
