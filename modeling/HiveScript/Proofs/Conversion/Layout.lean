import HiveScript.Proofs.Conversion.Concatenation

/-!
# Layout

Line ends, blanks at both ends of lines, and further lines without meaning do not change what a text
becomes. Only the number of a refused line tells of the lines that were added before it.

* `isBlank_eq_all_physicalLines`, `significantLines_of_isBlank`: texts whose lines are all blank.
* `EditedLine`: a line of an edited text; `EditedLine.addedBefore`: the lines added before a line.
* `significantFrom`: significant lines, counted from some number on; **`significantFrom_edited`**.
* **`convert_edited`**: the outcome of an edited text.
-/

namespace HiveScript

/-! ## Blank texts -/

theorem isBlank_joinLines (ends : Nat → LineEnd) (ls : List Text) :
    (Text.joinLines ends ls).isBlank = ls.all Text.isBlank := by
  have hend : ∀ e : LineEnd, e.text.isBlank = true := fun e => by cases e <;> decide
  induction ls generalizing ends with
  | nil => rfl
  | cons l ls ih =>
    cases ls with
    | nil => simp [Text.joinLines]
    | cons v ls =>
      have happend : ∀ a b : Text, (a ++ b).isBlank = (a.isBlank && b.isBlank) :=
        fun a b => List.all_append
      rw [Text.joinLines, happend, happend, hend, ih, List.all_cons (a := l), Bool.and_true]

/-- A text is blank if all its lines are. -/
theorem isBlank_eq_all_physicalLines (s : Text) :
    s.isBlank = s.physicalLines.all Text.isBlank := by
  obtain ⟨ends, hs⟩ := Text.exists_joinLines s
  conv_lhs => rw [hs]
  exact isBlank_joinLines ends _

/-! ## Edits -/

/-- A line of an edited text. -/
inductive EditedLine where
  /-- A line of the text, with more at both ends. -/
  | kept (left line right : Text)
  /-- A line that was not there. -/
  | added (line : Text)

namespace EditedLine

/-- The line before the edit. -/
def old? : EditedLine → Option Text
  | kept _ line _ => some line
  | added _ => none

/-- The line after the edit. -/
def new : EditedLine → Text
  | kept left line right => left ++ line ++ right
  | added line => line

/-- Blanks other than line feeds come to the ends of a line, and added lines are blank or begin with
the banner once they are trimmed. -/
def IsNoise : EditedLine → Prop
  | kept left _ right => ∀ p ∈ left ++ right, p.isBlank = true ∧ p ≠ Point.lineFeed
  | added line => Point.lineFeed ∉ line ∧
      (line.isBlank = true ∨ Text.beginsWith banner (trimLine line) = true)

/-- Decides without going through all points. -/
instance : DecidablePred IsNoise
  | kept left _ right =>
    decidable_of_iff ((left ++ right).all fun p => p.isBlank && decide (p ≠ Point.lineFeed)) (by
      simp only [IsNoise, List.all_eq_true, Bool.and_eq_true, decide_eq_true_eq])
  | added line =>
    inferInstanceAs (Decidable (Point.lineFeed ∉ line ∧
      (line.isBlank = true ∨ Text.beginsWith banner (trimLine line) = true)))

/-- How many lines were added before the one that had some number. -/
def addedBefore : List EditedLine → Nat → Nat
  | [], _ => 0
  | kept _ _ _ :: es, n => if n ≤ 1 then 0 else addedBefore es (n - 1)
  | added _ :: es, n => addedBefore es n + 1

variable {es : List EditedLine}

theorem addedBefore_of_kept (h : ∀ e ∈ es, e.old?.isSome) (n : Nat) : addedBefore es n = 0 := by
  induction es generalizing n with
  | nil => rfl
  | cons e es ih =>
    rw [List.forall_mem_cons] at h
    cases e with
    | kept left line right => simp [addedBefore, ih h.2]
    | added line => cases h.1

theorem lineFeed_not_mem_new {e : EditedLine} (he : e.IsNoise)
    (hold : ∀ l ∈ e.old?, Point.lineFeed ∉ l) : Point.lineFeed ∉ e.new := by
  cases e with
  | kept left line right =>
    have hline : Point.lineFeed ∉ line := hold line rfl
    intro h
    rw [new, List.append_assoc, List.mem_append, List.mem_append] at h
    rcases h with h | h | h
    · exact (he _ (List.mem_append_left _ h)).2 rfl
    · exact hline h
    · exact (he _ (List.mem_append_right _ h)).2 rfl
  | added line => exact he.1

theorem trimLine_new_kept {left line right : Text} (h : (kept left line right).IsNoise) :
    trimLine (kept left line right).new = trimLine line :=
  trimLine_append_blank (fun p hp => (h p (List.mem_append_left _ hp)).1)
    (fun p hp => (h p (List.mem_append_right _ hp)).1) line

theorem isSignificant_new_added {line : Text} (h : (added line).IsNoise) :
    isSignificant (trimLine (added line).new) = false := by
  rcases h.2 with hblank | hbanner
  · rw [new, trimLine_of_isBlank hblank]
    rfl
  · rw [new, isSignificant, hbanner, Bool.not_true, Bool.and_false]

end EditedLine

namespace Conversion

/-! ## Significant lines -/

/-- The significant ones of trimmed lines, which are counted from `n` on. -/
def significantFrom (n : Nat) (ls : List Text) : List (Nat × Text) :=
  ((ls.zipIdx n).map Prod.swap).filter fun (_, line) => isSignificant line

theorem significantLines_eq (s : Text) :
    significantLines s = significantFrom 1 (s.physicalLines.map trimLine) := by
  rw [significantLines, numberedLines_eq, significantFrom]

theorem significantLines_of_isBlank {s : Text} (hs : s.isBlank = true) :
    significantLines s = [] := by
  have htrim : ∀ l ∈ s.physicalLines.map trimLine, l = [] := by
    rw [isBlank_eq_all_physicalLines, List.all_eq_true] at hs
    rw [List.forall_mem_map]
    exact fun l hl => trimLine_of_isBlank (hs l hl)
  rw [← List.map_eq_nil_iff (f := Prod.snd), map_snd_significantLines, List.filter_eq_nil_iff]
  intro l hl
  rw [htrim l hl]
  decide

theorem significantFrom_cons (n : Nat) (l : Text) (ls : List Text) :
    significantFrom n (l :: ls) =
      (if isSignificant l then [(n, l)] else []) ++ significantFrom (n + 1) ls := by
  rw [significantFrom, List.zipIdx_cons, List.map_cons, List.filter_cons, significantFrom]
  by_cases h : isSignificant l = true
  · simp [h]
  · simp [h]

theorem le_of_mem_significantFrom {n : Nat} {ls : List Text} {l : Nat × Text}
    (h : l ∈ significantFrom n ls) : n ≤ l.1 := by
  obtain ⟨l', hl', rfl⟩ := List.mem_map.mp (List.mem_of_mem_filter h)
  exact List.le_snd_of_mem_zipIdx hl'

/-- **The significant lines after an edit are those before it**, with numbers that are higher by the
lines added before them. -/
theorem significantFrom_edited {es : List EditedLine} (hes : ∀ e ∈ es, e.IsNoise) (m a : Nat) :
    significantFrom (m + 1 + a) (es.map fun e => trimLine e.new) =
      (significantFrom (m + 1) ((es.filterMap EditedLine.old?).map trimLine)).map
        (Prod.map (fun n => n + (a + EditedLine.addedBefore es (n - m))) id) := by
  induction es generalizing m a with
  | nil => rfl
  | cons e es ih =>
    rw [List.forall_mem_cons] at hes
    rw [List.map_cons, significantFrom_cons]
    cases e with
    | kept left line right =>
      have hrest := ih hes.2 (m + 1) a
      have hold : (EditedLine.kept left line right :: es).filterMap EditedLine.old? =
          line :: es.filterMap EditedLine.old? := rfl
      rw [show m + 1 + a + 1 = m + 1 + 1 + a by omega, hrest, EditedLine.trimLine_new_kept hes.1,
        hold, List.map_cons, significantFrom_cons, List.map_append]
      have hfirst : EditedLine.addedBefore (.kept left line right :: es) (m + 1 - m) = 0 := by
        rw [EditedLine.addedBefore, if_pos (by omega)]
      congr 1
      · by_cases h : isSignificant (trimLine line) = true
        · rw [if_pos h, if_pos h, List.map_singleton, Prod.map, hfirst, Nat.add_zero]
          rfl
        · rw [if_neg h, if_neg h, List.map_nil]
      · refine List.map_congr_left fun l hl => ?_
        have hn : m + 1 + 1 ≤ l.1 := le_of_mem_significantFrom hl
        have hlater : EditedLine.addedBefore (.kept left line right :: es) (l.1 - m) =
            EditedLine.addedBefore es (l.1 - (m + 1)) := by
          rw [EditedLine.addedBefore, if_neg (by omega), Nat.sub_sub]
        rw [Prod.map, Prod.map, hlater]
    | added line =>
      have hrest := ih hes.2 m (a + 1)
      have hold : (EditedLine.added line :: es).filterMap EditedLine.old? =
          es.filterMap EditedLine.old? := rfl
      rw [EditedLine.isSignificant_new_added hes.1, if_neg Bool.false_ne_true, List.nil_append,
        show m + 1 + a + 1 = m + 1 + (a + 1) by omega, hrest, hold]
      refine List.map_congr_left fun l _ => ?_
      rw [Prod.map, Prod.map, EditedLine.addedBefore]
      congr 1
      omega

theorem significantLines_edited {s : Text} {es : List EditedLine} (hes : ∀ e ∈ es, e.IsNoise)
    (hold : es.filterMap EditedLine.old? = s.physicalLines) (ends : Nat → LineEnd) :
    significantLines (Text.joinLines ends (es.map EditedLine.new)) =
      (significantLines s).map (Prod.map (fun n => n + EditedLine.addedBefore es n) id) := by
  have hne : es.map EditedLine.new ≠ [] := by
    rintro h
    rw [List.map_eq_nil_iff.mp h] at hold
    have hlength := Text.length_physicalLines s
    rw [← hold] at hlength
    cases hlength
  have hlines : ∀ l ∈ es.map EditedLine.new, Point.lineFeed ∉ l := by
    rw [List.forall_mem_map]
    intro e he
    refine EditedLine.lineFeed_not_mem_new (hes e he) fun l hl => ?_
    exact Text.lineFeed_not_mem_of_mem_physicalLines (hold ▸ List.mem_filterMap.mpr ⟨e, he, hl⟩)
  rw [significantLines_eq, significantLines_eq, ← hold, Text.map_physicalLines_joinLines
    trimLine_append_carriageReturn ends hne hlines, List.map_map]
  have hedited := significantFrom_edited hes 0 0
  simp only [Nat.zero_add, Nat.add_zero, Nat.sub_zero] at hedited
  exact hedited

/-! ## Outcomes -/

/-- What is not blank is not blank after an edit. -/
theorem not_isBlank_edited {s : Text} (hs : ¬ s.isBlank = true) {es : List EditedLine}
    (hold : es.filterMap EditedLine.old? = s.physicalLines) (ends : Nat → LineEnd) :
    ¬ (Text.joinLines ends (es.map EditedLine.new)).isBlank = true := by
  rw [isBlank_joinLines, List.all_eq_true, List.forall_mem_map]
  intro h
  apply hs
  rw [isBlank_eq_all_physicalLines, ← hold, List.all_eq_true]
  intro l hl
  obtain ⟨e, he, hle⟩ := List.mem_filterMap.mp hl
  have hnew := h e he
  cases e with
  | kept left line right =>
    obtain rfl : line = l := Option.some.inj hle
    rw [isBlank_iff] at hnew ⊢
    exact fun p hp => hnew p (List.mem_append_left _ (List.mem_append_right _ hp))
  | added line => cases hle

/-- The numbers of the significant lines only tell which line is refused. -/
theorem convert_of_significantLines_eq {s t : Text} (hs : ¬ s.isBlank = true)
    (ht : ¬ t.isBlank = true) {f : Nat → Nat}
    (h : significantLines t = (significantLines s).map (Prod.map f id)) :
    convert t = (convert s).mapError (Refusal.renumber f) := by
  have hrun : run t = ((run s).1.map (Prod.map f id), (run s).2.map (Refusal.renumber f)) := by
    rw [run_of_not_isBlank ht, run_of_not_isBlank hs, h, runFrom_map_renumber]
  rw [convert, convert, hrun]
  obtain ⟨cs, _ | r⟩ := run s
  · have hsnd : ((cs.map (Prod.map f id)).map (·.2)) = cs.map (·.2) := by
      rw [List.map_map]
      rfl
    exact congrArg (fun cs => Except.ok (scriptOf cs)) hsnd
  · rfl

/-- **Layout does not matter.**

A text is its lines with ends between them. If it is not blank it may get other ends, blanks other
than line feeds at both ends of each line, and further lines that are blank or begin with the
banner: a script stays, and a refusal stays but for its line, whose number grows by as much as lines
were added before it. -/
theorem convert_edited {s : Text} (hs : ¬ s.isBlank = true) {es : List EditedLine}
    (hes : ∀ e ∈ es, e.IsNoise) (hold : es.filterMap EditedLine.old? = s.physicalLines)
    (ends : Nat → LineEnd) :
    (∃ before, s = Text.joinLines before s.physicalLines) ∧
    convert (Text.joinLines ends (es.map EditedLine.new)) =
      (convert s).mapError (Refusal.renumber fun n => n + EditedLine.addedBefore es n) ∧
    ((∀ e ∈ es, e.old?.isSome) →
      convert (Text.joinLines ends (es.map EditedLine.new)) = convert s) := by
  have hconvert := convert_of_significantLines_eq hs (not_isBlank_edited hs hold ends)
    (significantLines_edited hes hold ends)
  refine ⟨Text.exists_joinLines s, hconvert, fun hkept => ?_⟩
  have hid : (Refusal.renumber fun n => n + EditedLine.addedBefore es n) = id := by
    funext r
    cases r with
    | rejected r => simp [Refusal.renumber, EditedLine.addedBefore_of_kept hkept]
    | numeralTooLong => rfl
  rw [hconvert, hid]
  cases convert s <;> rfl

/-- A text that is refused in its second line. -/
def shaky : Text := "[HKEY_USERS]\nx"

/-- The same text with other blanks, the banner before it and a blank line in it. -/
def reshaped : List EditedLine :=
  [.added " Windows Registry Editor Version 5.00", .kept "\t" "[HKEY_USERS]" "\u2028",
    .added "\x0b\r", .kept [] "x" " \r"]

theorem convert_edited_reshaped :
    convert shaky = .error (.rejected ⟨.missingEquals, some 2⟩) ∧
    convert (Text.joinLines (fun _ => .returnLineFeed) (reshaped.map EditedLine.new)) =
      .error (.rejected ⟨.missingEquals, some (2 + 2)⟩) := by
  have hrefused : convert shaky = .error (.rejected ⟨.missingEquals, some 2⟩) := by rfl
  have hnoise : ∀ e ∈ reshaped, e.IsNoise := by decide +kernel
  have hedited := (convert_edited (s := shaky) (by decide) hnoise (by decide)
    fun _ => .returnLineFeed).2.1
  rw [hrefused] at hedited
  exact ⟨hrefused, hedited⟩

end Conversion

end HiveScript
