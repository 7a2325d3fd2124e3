import HiveScript.Conversion.Basic
import HiveScript.Proofs.Text.Hexadecimal
import HiveScript.Proofs.Text.Lines

/-!
# Lines of a text

* `trimLine_append_blank`, `trimLine_of_isBlank`: blanks at both ends of a line do not matter.
* `numbered_significantLines`: the numbers of significant lines grow; `mem_iff_mem_and_lt`,
  `line_unique`: what a number tells about its line.
* `le_of_mem_significantLines`: a text has no more lines than points, and one.
* `IsTrimmed`: lines that trimming leaves alone.
* **`significantLines_unlines`**: the significant ones of lines that are written one after another.
-/

namespace HiveScript

/-! ## Blanks at both ends -/

theorem trimLine_append_blank {left right : Text} (hl : ∀ p ∈ left, p.isBlank = true)
    (hr : ∀ p ∈ right, p.isBlank = true) (line : Text) :
    trimLine (left ++ line ++ right) = trimLine line := by
  have ht : Text.trim (left ++ line ++ right) = Text.trim line := by
    rw [Text.trim, Text.trimBy_append_of_forall hr, Text.trimBy_append_of_forall_left hl, Text.trim]
  rw [trimLine, ht, trimLine]

theorem trimLine_append_blank_right {right : Text} (hr : ∀ p ∈ right, p.isBlank = true)
    (line : Text) : trimLine (line ++ right) = trimLine line := by
  have hl : ∀ p ∈ ([] : Text), p.isBlank = true := by simp
  exact trimLine_append_blank hl hr line

theorem trimLine_of_isBlank {line : Text} (h : line.isBlank = true) : trimLine line = [] :=
  trimLine_append_blank_right (List.all_eq_true.mp h) []

namespace Conversion

/-! ## Numbers of lines -/

/-- The numbers of lines grow. -/
def Numbered (ls : List (Nat × Text)) : Prop := ls.Pairwise fun a b => a.1 < b.1

theorem numbered_numberedLines (s : Text) : Numbered (numberedLines s) := by
  have hn : (numberedLines s).map Prod.fst = List.range' 1 s.physicalLines.length := by
    rw [numberedLines, List.map_map, ← List.zipIdx_map_snd]
    rfl
  rw [Numbered, ← List.pairwise_map (f := Prod.fst) (R := (· < ·)), hn]
  exact List.pairwise_lt_range'

theorem numbered_significantLines (s : Text) : Numbered (significantLines s) :=
  (numbered_numberedLines s).filter _

/-- In a numbered list the lines before line `n` are those with smaller numbers. -/
theorem mem_iff_mem_and_lt {pre post : List (Nat × Text)} {n : Nat} {line : Text}
    (h : Numbered (pre ++ (n, line) :: post)) {l : Nat × Text} :
    l ∈ pre ↔ l ∈ pre ++ (n, line) :: post ∧ l.1 < n := by
  obtain ⟨-, hpost, hpre⟩ := List.pairwise_append.mp h
  refine ⟨fun hl => ⟨List.mem_append_left _ hl, hpre l hl (n, line) List.mem_cons_self⟩, ?_⟩
  rintro ⟨hl, hn⟩
  rcases List.mem_append.mp hl with hl | hl
  · exact hl
  · rcases List.mem_cons.mp hl with rfl | hl
    · exact absurd hn (Nat.lt_irrefl n)
    · exact absurd hn (Nat.lt_asymm (List.rel_of_pairwise_cons hpost hl))

/-- A number stands before one line only. -/
theorem line_unique {ls : List (Nat × Text)} (h : Numbered ls) {n : Nat} {line line' : Text}
    (hl : (n, line) ∈ ls) (hl' : (n, line') ∈ ls) : line = line' := by
  obtain ⟨pre, post, rfl⟩ := List.append_of_mem hl
  rcases List.mem_append.mp hl' with hp | hp
  · exact absurd ((mem_iff_mem_and_lt h).mp hp).2 (Nat.lt_irrefl n)
  · rcases List.mem_cons.mp hp with he | hp
    · exact (Prod.mk.inj he).2.symm
    · exact absurd (List.rel_of_pairwise_cons (List.pairwise_append.mp h).2.1 hp) (Nat.lt_irrefl n)

/-! ## Trimmed lines -/

/-- Points that trimming does not take. -/
def Solid (p : Point) : Prop := p.isBlank = false ∧ p ≠ Point.byteOrderMark

instance : DecidablePred Solid := fun p =>
  inferInstanceAs (Decidable (p.isBlank = false ∧ p ≠ Point.byteOrderMark))

/-- The line neither begins nor ends with a point that trimming takes. -/
def IsTrimmed (line : Text) : Prop := ∀ p, p ∈ line.head? ∨ p ∈ line.getLast? → Solid p

theorem solid_of_isHexDigit {p : Point} (h : p.isHexDigit = true) : Solid p := by
  refine ⟨Point.isBlank_of_isHexDigit h, ?_⟩
  rintro rfl
  exact absurd h (by decide)

/-- Decides without going through all points. -/
theorem forall_solid_of_all {line : Text} (h : line.all (fun p => decide (Solid p)) = true) :
    ∀ p ∈ line, Solid p := by
  simpa only [List.all_eq_true, decide_eq_true_eq] using h

theorem isTrimmed_of_forall {line : Text} (h : ∀ p ∈ line, Solid p) : IsTrimmed line := by
  rintro p (hp | hp)
  · exact h p (List.mem_of_mem_head? hp)
  · exact h p (List.mem_of_mem_getLast? hp)

theorem isTrimmed_cons_append {p : Point} {s t : Text} (hp : Solid p) (ht : t ≠ [])
    (hl : ∀ q ∈ t.getLast?, Solid q) : IsTrimmed (p :: (s ++ t)) := by
  rintro q (hq | hq)
  · rwa [← Option.some.inj hq]
  · rw [← List.cons_append, List.getLast?_append_of_ne_nil _ ht] at hq
    exact hl q hq

theorem not_mem_of_forall_solid {line : Text} (h : ∀ p ∈ line, Solid p) :
    Point.lineFeed ∉ line :=
  fun hp => absurd (h _ hp).1 (by decide)

theorem trim_of_isTrimmed {line : Text} (h : IsTrimmed line) : line.trim = line :=
  Text.trimBy_eq_self (fun p hp => (h p (.inl hp)).1) fun p hp => (h p (.inr hp)).1

theorem trimLine_of_isTrimmed {line : Text} (h : IsTrimmed line) : trimLine line = line := by
  have hb : line.trimBy (· = Point.byteOrderMark) = line :=
    Text.trimBy_eq_self (fun p hp => by simpa using (h p (.inl hp)).2)
      fun p hp => by simpa using (h p (.inr hp)).2
  rw [trimLine, trim_of_isTrimmed h, hb, trim_of_isTrimmed h]

theorem IsTrimmed.getLast?_ne {line : Text} (h : IsTrimmed line) :
    line.getLast? ≠ some Point.carriageReturn := by
  intro hl
  exact absurd (h _ (.inr hl)).1 (by decide)

/-! ## Significant lines -/

theorem mem_of_mem_trimLine {line : Text} {p : Point} (h : p ∈ trimLine line) : p ∈ line :=
  Text.mem_of_mem_trimBy (Text.mem_of_mem_trimBy (Text.mem_of_mem_trimBy h))

theorem lineFeed_not_mem_of_mem_significantLines {s : Text} {l : Nat × Text}
    (hl : l ∈ significantLines s) : Point.lineFeed ∉ l.2 := by
  obtain ⟨⟨line, n⟩, hline, rfl⟩ := List.mem_map.mp (List.mem_filter.mp hl).1
  exact fun h => Text.lineFeed_not_mem_of_mem_physicalLines
    (List.fst_mem_of_mem_zipIdx hline) (mem_of_mem_trimLine h)

/-- A text has no more lines than points, and one. -/
theorem le_of_mem_significantLines {s : Text} {l : Nat × Text} (hl : l ∈ significantLines s) :
    l.1 ≤ s.length + 1 := by
  obtain ⟨⟨line, n⟩, hline, rfl⟩ := List.mem_map.mp (List.mem_filter.mp hl).1
  have hn := List.snd_lt_add_of_mem_zipIdx hline
  have hcount : s.count Point.lineFeed ≤ s.length := List.count_le_length
  rw [Text.length_physicalLines] at hn
  dsimp only at hn ⊢
  omega

theorem map_snd_significantLines (s : Text) :
    (significantLines s).map Prod.snd = (s.physicalLines.map trimLine).filter isSignificant := by
  have hn : (numberedLines s).map Prod.snd = s.physicalLines.map trimLine := by
    rw [numberedLines, List.map_map]
    -- The numbers are dropped again, so they may as well be put to the lines on the right.
    conv_rhs => rw [← List.zipIdx_map_fst 1 s.physicalLines, List.map_map]
    rfl
  rw [significantLines, ← hn, List.filter_map]
  rfl

/-- **The significant ones of written lines are found as they were written.** -/
theorem significantLines_unlines (ends : Nat → LineEnd) {ls : List Text}
    (h : ∀ l ∈ ls, Point.lineFeed ∉ l ∧ IsTrimmed l) :
    (significantLines (Text.unlines ends ls)).map Prod.snd = ls.filter isSignificant := by
  have hp : Text.physicalLines (Text.unlines ends ls) = ls ++ [[]] :=
    Text.physicalLines_unlines ends fun l hl => ⟨(h l hl).1, (h l hl).2.getLast?_ne⟩
  have ht : ls.map trimLine = ls :=
    (List.map_congr_left fun l hl => trimLine_of_isTrimmed (h l hl).2).trans (List.map_id' ls)
  rw [map_snd_significantLines, hp, List.map_append, ht, List.filter_append]
  exact List.append_nil _

end Conversion

end HiveScript
