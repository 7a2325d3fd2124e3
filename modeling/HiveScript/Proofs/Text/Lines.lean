import HiveScript.Proofs.Text.Parts
import HiveScript.Text.Line

/-!
# Physical lines

* `LineEnd`, `unlines`: lines written one after the other, each with an end of its own.
* `physicalLines_append_lineFeed`, `physicalLines_append_paired`: a line ends at a line feed.
* **`physicalLines_unlines`**: the physical lines of such a text are the lines, and an empty one.
* `lineInduction`: induction on a text line by line; `lineFeed_not_mem_of_mem_physicalLines`,
  `length_physicalLines`: lines hold no line feeds, and there is one more line than line feeds.
* `map_physicalLines_append`: the physical lines of two texts with a line feed between them.
* `joinLines`: lines with ends between them only; **`exists_joinLines`**: every text is its physical
  lines with ends between them.
-/

namespace HiveScript

/-! ## Ends of lines -/

/-- How a physical line ends. -/
inductive LineEnd where
  | lineFeed
  | returnLineFeed

def LineEnd.text : LineEnd → Text
  | lineFeed => [Point.lineFeed]
  | returnLineFeed => [Point.carriageReturn, Point.lineFeed]

namespace Text

/-- Lines one after the other, where `ends i` is the end of the line at place `i`. -/
def unlines (ends : Nat → LineEnd) : List Text → Text
  | [] => []
  | l :: ls => l ++ (ends 0).text ++ unlines (fun i => ends (i + 1)) ls

/-! ## Splitting -/

theorem physicalLines_append_paired {s : Text} (hs : Point.lineFeed ∉ s) (t : Text) :
    physicalLines (s ++ Point.carriageReturn :: Point.lineFeed :: t) = s :: physicalLines t := by
  induction s with
  | nil => rfl
  | cons p s ih =>
    rw [List.mem_cons, not_or] at hs
    have hh : (s ++ Point.carriageReturn :: Point.lineFeed :: t).head? ≠ some Point.lineFeed := by
      cases s with
      | nil => exact (by decide : some Point.carriageReturn ≠ some Point.lineFeed)
      | cons q s => exact fun h => hs.2 (by simp [Option.some.inj h])
    rw [List.cons_append, physicalLines, if_neg (Ne.symm hs.1), if_neg fun h => hh h.2, ih hs.2,
      consFirst]

theorem physicalLines_append_lineFeed {s : Text} (hs : Point.lineFeed ∉ s)
    (hr : s.getLast? ≠ some Point.carriageReturn) (t : Text) :
    physicalLines (s ++ Point.lineFeed :: t) = s :: physicalLines t := by
  induction s with
  | nil => rfl
  | cons p s ih =>
    rw [List.mem_cons, not_or] at hs
    have hp : ¬ (p = Point.carriageReturn ∧
        (s ++ Point.lineFeed :: t).head? = some Point.lineFeed) := by
      rintro ⟨rfl, h⟩
      cases s with
      | nil => exact hr rfl
      | cons q s => exact hs.2 (by simp [Option.some.inj h])
    have hr' : s.getLast? ≠ some Point.carriageReturn := by
      intro h
      rw [List.getLast?_cons, h] at hr
      exact hr rfl
    rw [List.cons_append, physicalLines, if_neg (Ne.symm hs.1), if_neg hp, ih hs.2 hr', consFirst]

/-- **The physical lines of written lines are the lines, and an empty one after the last end.** -/
theorem physicalLines_unlines (ends : Nat → LineEnd) {ls : List Text}
    (h : ∀ l ∈ ls, Point.lineFeed ∉ l ∧ l.getLast? ≠ some Point.carriageReturn) :
    physicalLines (unlines ends ls) = ls ++ [[]] := by
  induction ls generalizing ends with
  | nil => rfl
  | cons l ls ih =>
    rw [List.forall_mem_cons] at h
    -- Only a line feed of its own may not follow a carriage return.
    rw [unlines, List.append_assoc, List.cons_append, ← ih (fun i => ends (i + 1)) h.2]
    cases ends 0 with
    | lineFeed => exact physicalLines_append_lineFeed h.1.1 h.1.2 _
    | returnLineFeed => exact physicalLines_append_paired h.1.1 _

/-! ## Texts line by line -/

/-- A text is one line, or a line before the text after its line feed. -/
@[elab_as_elim]
theorem lineInduction {motive : Text → Prop} (last : ∀ a, Point.lineFeed ∉ a → motive a)
    (cons : ∀ a t, Point.lineFeed ∉ a → motive t → motive (a ++ Point.lineFeed :: t)) (s : Text) :
    motive s := by
  induction hn : s.length using Nat.strongRecOn generalizing s with
  | ind n ih =>
    cases hc : cut? Point.lineFeed s with
    | none => exact last s (cut?_eq_none_iff.mp hc)
    | some c =>
      obtain ⟨a, t⟩ := c
      obtain ⟨rfl, ha⟩ := cut?_eq_some_iff.mp hc
      refine cons a t ha (ih t.length ?_ t rfl)
      rw [← hn, List.length_append, List.length_cons]
      omega

theorem physicalLines_of_not_mem {s : Text} (hs : Point.lineFeed ∉ s) : physicalLines s = [s] := by
  induction s with
  | nil => rfl
  | cons p s ih =>
    rw [List.mem_cons, not_or] at hs
    have hp : ¬ (p = Point.carriageReturn ∧ s.head? = some Point.lineFeed) :=
      fun h => hs.2 (List.mem_of_mem_head? h.2)
    rw [physicalLines, if_neg (Ne.symm hs.1), if_neg hp, ih hs.2, consFirst]

/-- The first line of a text, whatever comes after its line feed. -/
theorem exists_physicalLines_append {a : Text} (ha : Point.lineFeed ∉ a) :
    ∃ l, (a = l ∨ a = l ++ [Point.carriageReturn]) ∧
      ∀ t, physicalLines (a ++ Point.lineFeed :: t) = l :: physicalLines t := by
  by_cases hr : a.getLast? = some Point.carriageReturn
  · obtain ⟨l, rfl⟩ := List.getLast?_eq_some_iff.mp hr
    have hl : Point.lineFeed ∉ l := fun h => ha (List.mem_append_left _ h)
    refine ⟨l, .inr rfl, fun t => ?_⟩
    rw [List.append_assoc, List.singleton_append, physicalLines_append_paired hl]
  · exact ⟨a, .inl rfl, physicalLines_append_lineFeed ha hr⟩

theorem lineFeed_not_mem_of_mem_physicalLines {s l : Text} (hl : l ∈ physicalLines s) :
    Point.lineFeed ∉ l := by
  induction s using lineInduction with
  | last a ha =>
    rw [physicalLines_of_not_mem ha, List.mem_singleton] at hl
    rwa [hl]
  | cons a t ha ih =>
    obtain ⟨first, hfirst, h⟩ := exists_physicalLines_append ha
    rw [h, List.mem_cons] at hl
    rcases hl with rfl | hl
    · rcases hfirst with rfl | rfl
      · exact ha
      · exact fun h => ha (List.mem_append_left _ h)
    · exact ih hl

theorem length_physicalLines (s : Text) :
    (physicalLines s).length = s.count Point.lineFeed + 1 := by
  induction s using lineInduction with
  | last a ha => rw [physicalLines_of_not_mem ha, List.count_eq_zero_of_not_mem ha]; rfl
  | cons a t ha ih =>
    obtain ⟨first, -, h⟩ := exists_physicalLines_append ha
    rw [h, List.length_cons, ih, List.count_append, List.count_cons_self,
      List.count_eq_zero_of_not_mem ha, Nat.zero_add]

/-- **The physical lines of two texts with a line feed between them**, for whoever does not see a
carriage return at the end of a line. -/
theorem map_physicalLines_append {f : Text → α}
    (hf : ∀ l, f (l ++ [Point.carriageReturn]) = f l) (a b : Text) :
    (physicalLines (a ++ Point.lineFeed :: b)).map f =
      (physicalLines a).map f ++ (physicalLines b).map f := by
  induction a using lineInduction with
  | last a ha =>
    obtain ⟨first, hfirst, h⟩ := exists_physicalLines_append ha
    -- Only here the line feed between the texts may make a pair with a carriage return.
    have hlast : f first = f a := by
      rcases hfirst with rfl | rfl
      · rfl
      · exact (hf first).symm
    rw [h, physicalLines_of_not_mem ha, List.map_cons, hlast]
    rfl
  | cons a t ha ih =>
    obtain ⟨first, -, h⟩ := exists_physicalLines_append ha
    rw [List.append_assoc, List.cons_append, h, h, List.map_cons, List.map_cons, ih,
      List.cons_append]

/-! ## Ends between lines -/

/-- Lines one after the other, where `ends i` is the end between the lines at places `i` and
`i + 1`. -/
def joinLines (ends : Nat → LineEnd) : List Text → Text
  | [] => []
  | [l] => l
  | l :: v :: ls => l ++ (ends 0).text ++ joinLines (fun i => ends (i + 1)) (v :: ls)

/-- Every text is its physical lines with ends between them. -/
theorem exists_joinLines (s : Text) : ∃ ends, s = joinLines ends (physicalLines s) := by
  induction s using lineInduction with
  | last a ha => exact ⟨fun _ => .lineFeed, by rw [physicalLines_of_not_mem ha, joinLines]⟩
  | cons a t ha ih =>
    obtain ⟨ends, ht⟩ := ih
    obtain ⟨first, hfirst, h⟩ := exists_physicalLines_append ha
    have hne : physicalLines t ≠ [] := List.ne_nil_of_length_pos (by
      rw [length_physicalLines]
      omega)
    obtain ⟨v, ls, hls⟩ := List.exists_cons_of_ne_nil hne
    -- The end before the rest is the one that was read off.
    have hjoin : ∀ e : LineEnd, joinLines (fun i => i.casesOn e ends) (first :: v :: ls) =
        first ++ e.text ++ t := by
      intro e
      rw [joinLines, ← hls]
      exact congrArg _ ht.symm
    rcases hfirst with rfl | rfl
    · refine ⟨fun i => i.casesOn .lineFeed ends, ?_⟩
      rw [h, hls, hjoin, LineEnd.text, List.append_assoc, List.singleton_append]
    · refine ⟨fun i => i.casesOn .returnLineFeed ends, ?_⟩
      rw [h, hls, hjoin, LineEnd.text]
      simp

/-- **The physical lines of lines with ends between them**, for whoever does not see a carriage
return at the end of a line. -/
theorem map_physicalLines_joinLines {f : Text → α}
    (hf : ∀ l, f (l ++ [Point.carriageReturn]) = f l) (ends : Nat → LineEnd) {ls : List Text}
    (hne : ls ≠ []) (h : ∀ l ∈ ls, Point.lineFeed ∉ l) :
    (physicalLines (joinLines ends ls)).map f = ls.map f := by
  induction ls generalizing ends with
  | nil => exact absurd rfl hne
  | cons l ls ih =>
    rw [List.forall_mem_cons] at h
    cases ls with
    | nil => rw [joinLines, physicalLines_of_not_mem h.1]
    | cons v ls =>
      have hrest := ih (fun i => ends (i + 1)) (List.cons_ne_nil v ls) h.2
      rw [joinLines, List.append_assoc, List.map_cons, ← hrest]
      cases ends 0 with
      | lineFeed =>
        have happend := map_physicalLines_append hf l (joinLines (fun i => ends (i + 1)) (v :: ls))
        rw [physicalLines_of_not_mem h.1] at happend
        exact happend
      | returnLineFeed =>
        rw [LineEnd.text, List.cons_append, List.singleton_append,
          physicalLines_append_paired h.1, List.map_cons]

end Text

end HiveScript
