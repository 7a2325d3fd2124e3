import HiveScript.Proofs.Text.Parts
import HiveScript.Text.Line
import Mathlib.Data.List.Chain

/-!
# Texts on one line

* `Text.IsOneLine`: the only blanks of a text are single spaces inside of it;
  `IsOneLine.isBreak_eq_false`.
* `isOneLine_join`, **`join_words`**: these are words with spaces between them.
* `isOneLine_oneLineWithin`, `length_oneLineWithin_le`: what a text becomes on one line.
* **`oneLineWithin_oneLineWithin`**: what is on one line stays as it is.
-/

namespace HiveScript

/-- What breaks a line is a blank, and no space. -/
theorem Point.isBlank_of_isBreak {p : Point} (h : p.isBreak = true) :
    p.isBlank = true ∧ p ≠ Point.space := by
  have hrange : (0x0A ≤ p.val ∧ p.val ≤ 0x0D) ∨ (0x1C ≤ p.val ∧ p.val ≤ 0x1E) ∨
      (0x85 ≤ p.val ∧ p.val ≤ 0x85) ∨ (0x2028 ≤ p.val ∧ p.val ≤ 0x2029) := by
    simpa [isBreak, Ranges.has, breakRanges] using h
  constructor
  · simp only [isBlank, Ranges.has, blankRanges, List.any_cons, List.any_nil, Bool.or_eq_true,
      Bool.and_eq_true, decide_eq_true_eq, Bool.or_false]
    omega
  · rintro rfl
    exact absurd h (by decide)

namespace Text

/-- The only blanks of a text are single spaces inside of it. -/
structure IsOneLine (s : Text) : Prop where
  blank : ∀ p ∈ s, p.isBlank = true → p = Point.space
  head : ∀ p ∈ s.head?, p.isBlank = false
  last : ∀ p ∈ s.getLast?, p.isBlank = false
  single : s.IsChain fun p q => p.isBlank = false ∨ q.isBlank = false

variable {s w : Text} {p q : Point}

theorem IsOneLine.isBreak_eq_false (h : s.IsOneLine) (hp : p ∈ s) : p.isBreak = false := by
  rw [Bool.eq_false_iff]
  intro hbreak
  obtain ⟨hblank, hspace⟩ := Point.isBlank_of_isBreak hbreak
  exact hspace (h.blank p hp hblank)

/-- A text without blanks is on one line. -/
theorem isOneLine_of_forall (h : ∀ p ∈ s, p.isBlank = false) : s.IsOneLine where
  blank p hp hblank := absurd (hblank.symm.trans (h p hp)) nofun
  head p hp := h p (List.mem_of_mem_head? hp)
  last p hp := h p (List.mem_of_mem_getLast? hp)
  single := (List.pairwise_of_forall_mem_list fun p hp _ _ => .inl (h p hp)).isChain

/-- Texts on one line stay on one line with a space between them. -/
theorem IsOneLine.append_space {t : Text} (hs : s.IsOneLine) (ht : t.IsOneLine) (hs' : s ≠ [])
    (ht' : t ≠ []) : (s ++ [Point.space] ++ t).IsOneLine where
  blank p hp hblank := by
    simp only [List.mem_append, List.mem_singleton] at hp
    rcases hp with (hp | hp) | hp
    · exact hs.blank p hp hblank
    · exact hp
    · exact ht.blank p hp hblank
  head := by
    rw [List.append_assoc, List.head?_append_of_ne_nil _ hs']
    exact hs.head
  last := by
    rw [List.getLast?_append_of_ne_nil _ ht']
    exact ht.last
  single := by
    refine List.isChain_append.mpr ⟨List.isChain_append.mpr ⟨hs.single, .singleton _, ?_⟩,
      ht.single, fun _ _ q hq => .inr (ht.head q hq)⟩
    exact fun p hp _ _ => .inl (hs.last p hp)

/-- What is on one line stays so behind a point that is no blank. -/
theorem IsOneLine.tail (h : IsOneLine (p :: q :: s)) (hq : q.isBlank = false) :
    IsOneLine (q :: s) where
  blank r hr := h.blank r (List.mem_cons_of_mem p hr)
  head r hr := by
    obtain rfl := Option.some.inj hr
    exact hq
  last r hr := h.last r hr
  single := (List.isChain_cons_cons.mp h.single).2

/-! ## Words -/

theorem isBlank_eq_false_of_mem_words (hw : w ∈ s.words) (hp : p ∈ w) : p.isBlank = false :=
  sep_eq_false_of_mem_fields (List.mem_of_mem_filter hw) hp

theorem ne_nil_of_mem_words (hw : w ∈ s.words) : w ≠ [] := by
  simpa using (List.mem_filter.mp hw).2

theorem words_cons_cons_of_isBlank (hp : p.isBlank = false) (hq : q.isBlank = true) (s : Text) :
    words (p :: q :: s) = [p] :: s.words := by
  rw [words, fields, if_neg (by simp [hp]), fields_cons_of_sep hq, consFirst,
    List.filter_cons_of_pos rfl, words]

theorem words_singleton (hp : p.isBlank = false) : words [p] = [[p]] := by
  rw [words, fields_of_forall (by simpa using hp)]
  rfl

/-- A point that is no blank belongs to the word that begins behind it. -/
theorem words_cons_cons_of_not_isBlank (hp : p.isBlank = false) (hq : q.isBlank = false)
    (s : Text) : words (p :: q :: s) = consFirst p (words (q :: s)) := by
  have hfirst : ∃ w ws, fields Point.isBlank (q :: s) = (q :: w) :: ws := by
    rw [fields, if_neg (by simp [hq])]
    cases fields Point.isBlank s with
    | nil => exact ⟨[], [], rfl⟩
    | cons w ws => exact ⟨w, ws, rfl⟩
  obtain ⟨w, ws, hws⟩ := hfirst
  rw [words, words, fields, if_neg (by simp [hp]), hws, consFirst, List.filter_cons_of_pos rfl,
    List.filter_cons_of_pos rfl, consFirst]

theorem isOneLine_join {ws : List Text} (hne : ∀ w ∈ ws, w ≠ [])
    (hblank : ∀ w ∈ ws, ∀ p ∈ w, p.isBlank = false) :
    (join [Point.space] ws).IsOneLine ∧ (ws ≠ [] → join [Point.space] ws ≠ []) := by
  induction ws with
  | nil => exact ⟨isOneLine_of_forall nofun, fun h => absurd rfl h⟩
  | cons w ws ih =>
    rw [List.forall_mem_cons] at hne hblank
    obtain ⟨hrest, hrest'⟩ := ih hne.2 hblank.2
    have hw := isOneLine_of_forall hblank.1
    match ws with
    | [] => exact ⟨hw, fun _ => hne.1⟩
    | v :: ws =>
      rw [join_cons_cons]
      exact ⟨hw.append_space hrest hne.1 (hrest' (List.cons_ne_nil v ws)), fun _ => by simp⟩

/-- **A text on one line is its words** with spaces between them. -/
theorem join_words : ∀ {s : Text}, s.IsOneLine → join [Point.space] s.words = s
  | [], _ => rfl
  | [p], h => by
    rw [words_singleton (h.head p rfl)]
    rfl
  | [p, q], h => by
    have hq : q.isBlank = false := h.last q rfl
    rw [words_cons_cons_of_not_isBlank (h.head p rfl) hq, join_consFirst, join_words (h.tail hq)]
  | p :: q :: r :: s, h => by
    have hp : p.isBlank = false := h.head p rfl
    by_cases hq : q.isBlank = true
    · -- A blank is a single space, so that the next word begins directly behind it.
      have hchain := (List.isChain_cons_cons.mp h.single).2
      have hr : r.isBlank = false :=
        (List.isChain_cons_cons.mp hchain).1.resolve_left (by simp [hq])
      have htail : IsOneLine (r :: s) :=
        ⟨fun t ht => h.blank t (by simp only [List.mem_cons] at ht ⊢; tauto),
          fun t ht => Option.some.inj ht ▸ hr, h.last, (List.isChain_cons_cons.mp hchain).2⟩
      have hspace : q = Point.space := h.blank q (by simp) hq
      have hrest := join_words htail
      rw [words_cons_cons_of_isBlank hp hq]
      cases hws : words (r :: s) with
      | nil =>
        rw [hws] at hrest
        cases hrest
      | cons v vs =>
        rw [hws] at hrest
        rw [join_cons_cons, hrest, hspace]
        rfl
    · rw [Bool.not_eq_true] at hq
      rw [words_cons_cons_of_not_isBlank hp hq, join_consFirst, join_words (h.tail hq)]

theorem isOneLine_join_words (s : Text) : (join [Point.space] s.words).IsOneLine :=
  (isOneLine_join (fun _ => ne_nil_of_mem_words) fun _ hw _ => isBlank_eq_false_of_mem_words hw).1

/-! ## The end cut off -/

theorem isBlank_eq_false_of_mem_ellipsis (hp : p ∈ ellipsis) : p.isBlank = false := by
  have hdots : (ellipsis.all fun p => !p.isBlank) = true := by decide
  simpa using List.all_eq_true.mp hdots p hp

/-- What is cut off may leave a space before the ellipsis, and then it is a single one. -/
theorem IsOneLine.take_append_ellipsis (h : s.IsOneLine) (n : Nat) :
    IsOneLine (s.take n ++ ellipsis) where
  blank p hp hblank := by
    rcases List.mem_append.mp hp with hp | hp
    · exact h.blank p (List.mem_of_mem_take hp) hblank
    · exact absurd (hblank.symm.trans (isBlank_eq_false_of_mem_ellipsis hp)) nofun
  head p hp := by
    rw [List.head?_append, List.head?_take] at hp
    split_ifs at hp
    · exact isBlank_eq_false_of_mem_ellipsis (List.mem_of_mem_head? hp)
    · rcases Option.or_eq_some_iff.mp hp with hp | ⟨-, hp⟩
      · exact h.head p hp
      · exact isBlank_eq_false_of_mem_ellipsis (List.mem_of_mem_head? hp)
  last p hp := by
    have hdots : ellipsis ≠ [] := List.cons_ne_nil _ _
    rw [List.getLast?_append_of_ne_nil _ hdots] at hp
    exact isBlank_eq_false_of_mem_ellipsis (List.mem_of_mem_getLast? hp)
  single := by
    have hdots := isOneLine_of_forall fun p => isBlank_eq_false_of_mem_ellipsis (p := p)
    exact List.isChain_append.mpr ⟨h.single.take n, hdots.single,
      fun _ _ q hq => .inr (hdots.head q hq)⟩

section

variable {limit : Int}

theorem isOneLine_oneLineWithin (hlimit : 3 ≤ limit) (s : Text) :
    (oneLineWithin limit s).IsOneLine := by
  obtain ⟨n, rfl⟩ : ∃ n : Nat, limit = n + 3 := ⟨(limit - 3).toNat, by omega⟩
  have hdifference : (n + 3 : Int) - ellipsis.length = .ofNat n := Int.add_sub_cancel _ _
  rw [oneLineWithin]
  split_ifs
  · exact isOneLine_join_words s
  · rw [hdifference, upTo]
    exact (isOneLine_join_words s).take_append_ellipsis n

theorem length_oneLineWithin_le (hlimit : 3 ≤ limit) (s : Text) :
    ((oneLineWithin limit s).length : Int) ≤ limit := by
  obtain ⟨n, rfl⟩ : ∃ n : Nat, limit = n + 3 := ⟨(limit - 3).toNat, by omega⟩
  have hdifference : (n + 3 : Int) - ellipsis.length = .ofNat n := Int.add_sub_cancel _ _
  rw [oneLineWithin]
  split_ifs with h
  · exact h
  · have htake := List.length_take_le n (join [Point.space] s.words)
    have hdots : ellipsis.length = 3 := rfl
    rw [hdifference, upTo, List.length_append, hdots]
    omega

/-- A text that is on one line already, and not too long, stays as it is. -/
theorem oneLineWithin_of_isOneLine (h : s.IsOneLine) (hs : (s.length : Int) ≤ limit) :
    oneLineWithin limit s = s := by
  rw [oneLineWithin, join_words h]
  exact if_pos hs

/-- **What was put on one line stays as it is.** -/
theorem oneLineWithin_oneLineWithin (hlimit : 3 ≤ limit) (s : Text) :
    oneLineWithin limit (oneLineWithin limit s) = oneLineWithin limit s :=
  oneLineWithin_of_isOneLine (isOneLine_oneLineWithin hlimit s) (length_oneLineWithin_le hlimit s)

end

end Text

end HiveScript
