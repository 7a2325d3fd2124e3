import HiveScript.Proofs.Text.Parts
import HiveScript.Text.Line

/-!
# Words at the beginning of broken lines

A broken line begins with some words where the text does, and where the words stand directly after a
break.

* `Text.afterBreaks`: how often words stand directly after a break; `afterBreaks_append_cons`: a
  point that is none of the words parts a text.
* **`length_filter_brokenLines`**: how many broken lines begin with some words.
* `afterBreaks_eq_zero_iff`: no break stands directly before the words.
-/

namespace HiveScript.Text

variable {lead : Text}

theorem beginsWith_nil (hne : lead ≠ []) : beginsWith lead [] = false := by
  rw [Bool.eq_false_iff, Ne, beginsWith_iff, List.prefix_nil]
  exact hne

/-- A beginning does not reach over a point that is none of its own. -/
theorem beginsWith_append_cons {q : Point} (hq : q ∉ lead) (a b : Text) :
    beginsWith lead (a ++ q :: b) = beginsWith lead a := by
  rw [Bool.eq_iff_iff, beginsWith_iff, beginsWith_iff]
  refine ⟨fun h => ?_, fun h => h.trans (List.prefix_append a _)⟩
  have hshort : a ++ [q] <+: a ++ q :: b := ⟨b, by simp⟩
  rcases List.prefix_or_prefix_of_prefix h hshort with h | h
  · rcases List.prefix_concat_iff.mp h with h | h
    · exact absurd (h ▸ List.mem_append_right a (List.mem_singleton_self q)) hq
    · exact h
  · exact absurd (h.subset (List.mem_append_right a (List.mem_singleton_self q))) hq

/-! ## Words after breaks -/

/-- How often some words stand directly after a break. -/
def afterBreaks (lead : Text) : Text → Nat
  | [] => 0
  | p :: s => (if p.isBreak && beginsWith lead s then 1 else 0) + afterBreaks lead s

theorem afterBreaks_cons_of_not_isBreak {p : Point} (hp : p.isBreak = false) (s : Text) :
    afterBreaks lead (p :: s) = afterBreaks lead s := by
  simp [afterBreaks, hp]

theorem afterBreaks_append_of_forall {a : Text} (ha : ∀ p ∈ a, p.isBreak = false) (s : Text) :
    afterBreaks lead (a ++ s) = afterBreaks lead s := by
  induction a with
  | nil => rfl
  | cons p a ih =>
    rw [List.forall_mem_cons] at ha
    rw [List.cons_append, afterBreaks_cons_of_not_isBreak ha.1, ih ha.2]

theorem afterBreaks_of_forall {s : Text} (hs : ∀ p ∈ s, p.isBreak = false) :
    afterBreaks lead s = 0 := by
  have happend : afterBreaks lead (s ++ []) = afterBreaks lead [] :=
    afterBreaks_append_of_forall hs []
  rwa [List.append_nil] at happend

/-- **Words do not reach over a point that is none of their own.** -/
theorem afterBreaks_append_cons {q : Point} (hq : q ∉ lead) (a b : Text) :
    afterBreaks lead (a ++ q :: b) = afterBreaks lead a + afterBreaks lead (q :: b) := by
  induction a with
  | nil => simp [afterBreaks]
  | cons p a ih =>
    rw [List.cons_append, afterBreaks, afterBreaks, beginsWith_append_cons hq, ih, Nat.add_assoc]

theorem afterBreaks_eq_zero_iff {s : Text} :
    afterBreaks lead s = 0 ↔ ∀ p : Point, p.isBreak = true → ¬ (p :: lead) <:+: s := by
  induction s with
  | nil => simp [afterBreaks]
  | cons q s ih =>
    simp only [afterBreaks, Nat.add_eq_zero_iff, ih, List.infix_cons_iff, List.cons_prefix_cons,
      not_or]
    rw [ite_eq_right_iff, Bool.and_eq_true, beginsWith_iff]
    constructor
    · rintro ⟨hq, hs⟩ p hp
      refine ⟨?_, hs p hp⟩
      rintro ⟨rfl, h⟩
      exact absurd (hq ⟨hp, h⟩) Nat.one_ne_zero
    · intro h
      refine ⟨fun hq => absurd ⟨rfl, hq.2⟩ (h q hq.1).1, fun p hp => (h p hp).2⟩

/-! ## Broken lines -/

/-- Words without breaks are at the beginning of a text if they are at that of its first line. -/
theorem beginsWith_takeWhile (hlead : ∀ p ∈ lead, p.isBreak = false) (s : Text) :
    beginsWith lead (s.takeWhile fun p => !p.isBreak) = beginsWith lead s := by
  rw [Bool.eq_iff_iff, beginsWith_iff, beginsWith_iff]
  refine ⟨fun h => h.trans (List.takeWhile_prefix _), ?_⟩
  rintro ⟨t, rfl⟩
  rw [List.takeWhile_append_of_pos fun p hp => by rw [hlead p hp]; rfl]
  exact List.prefix_append lead _

theorem beginsWith_cons_of_isBreak (hlead : ∀ p ∈ lead, p.isBreak = false) (hne : lead ≠ [])
    {p : Point} (hp : p.isBreak = true) (s : Text) : beginsWith lead (p :: s) = false := by
  have htake := beginsWith_takeWhile hlead (p :: s)
  rw [List.takeWhile_cons_of_neg (by simp [hp]), beginsWith_nil hne] at htake
  exact htake.symm

theorem length_filter_beginsWith_cons (l : Text) (ls : List Text) :
    ((l :: ls).filter (beginsWith lead)).length =
      (if beginsWith lead l then 1 else 0) + (ls.filter (beginsWith lead)).length := by
  by_cases h : beginsWith lead l = true
  · simp [h, Nat.add_comm]
  · simp [h]

/-- The first broken line, and how many of the others begin with some words. -/
theorem exists_brokenLines_eq_cons (hlead : ∀ p ∈ lead, p.isBreak = false) (hne : lead ≠ [])
    {s : Text} (hs : s ≠ []) :
    ∃ ls, brokenLines s = s.takeWhile (fun p => !p.isBreak) :: ls ∧
      (ls.filter (beginsWith lead)).length = afterBreaks lead s := by
  induction s with
  | nil => exact absurd rfl hs
  | cons p s ih =>
    rw [brokenLines]
    split_ifs with hpair hbreak
    · -- The line feed of a pair is a break by itself, and no words begin with it.
      obtain ⟨rfl, hhead⟩ := hpair
      obtain ⟨t, rfl⟩ : ∃ t, s = Point.lineFeed :: t := List.head?_eq_some_iff.mp hhead
      obtain ⟨ls, hls, hcount⟩ := ih (List.cons_ne_nil _ _)
      have hfeed : beginsWith lead (Point.lineFeed :: t) = false :=
        beginsWith_cons_of_isBreak hlead hne (by decide) t
      have hpaired : afterBreaks lead (Point.carriageReturn :: Point.lineFeed :: t) =
          afterBreaks lead (Point.lineFeed :: t) := by
        rw [afterBreaks, hfeed, Bool.and_false, if_neg Bool.false_ne_true, Nat.zero_add]
      exact ⟨ls, hls, hcount.trans hpaired.symm⟩
    · refine ⟨brokenLines s, by rw [List.takeWhile_cons_of_neg (by simp [hbreak])], ?_⟩
      rw [afterBreaks, hbreak, Bool.true_and]
      by_cases hs' : s = []
      · subst hs'
        rw [beginsWith_nil hne]
        rfl
      · obtain ⟨ls, hls, hcount⟩ := ih hs'
        rw [hls, length_filter_beginsWith_cons, beginsWith_takeWhile hlead, hcount]
    · have hbreak : p.isBreak = false := by simpa using hbreak
      rw [afterBreaks_cons_of_not_isBreak hbreak, List.takeWhile_cons_of_pos (by simp [hbreak])]
      by_cases hs' : s = []
      · subst hs'
        exact ⟨[], rfl, rfl⟩
      · obtain ⟨ls, hls, hcount⟩ := ih hs'
        exact ⟨ls, by rw [hls]; rfl, hcount⟩

/-- **The broken lines that begin with some words** are found at the beginning of the text and after
its breaks. -/
theorem length_filter_brokenLines (hlead : ∀ p ∈ lead, p.isBreak = false) (hne : lead ≠ [])
    (s : Text) :
    ((brokenLines s).filter (beginsWith lead)).length =
      (if beginsWith lead s then 1 else 0) + afterBreaks lead s := by
  by_cases hs : s = []
  · subst hs
    rw [beginsWith_nil hne]
    rfl
  · obtain ⟨ls, hls, hcount⟩ := exists_brokenLines_eq_cons hlead hne hs
    rw [hls, length_filter_beginsWith_cons, beginsWith_takeWhile hlead, hcount]

end HiveScript.Text
