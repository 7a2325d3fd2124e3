import HiveScript.Proofs.Conversion.Headers

/-!
# Byte order marks before texts

A mark before a text is taken off with the ends of the first line, unless blanks stand between that
mark and another one. A text of a mark and blanks is not blank.

* `HidesMark`: lines that lose a mark by themselves, but not behind another one.
* **`trimLine_mark_cons`**, `head?_trimLine_mark_cons`: lines behind a mark.
* `Text.firstLine`; `convert_eq_valueOutsideSection_one_iff`: refusals of the first line.
* `convert_mark_cons`: when a mark before a text changes nothing, and what it changes.
-/

namespace HiveScript

/-! ## Lines behind a mark -/

/-- Blanks stand before a mark, and more than marks behind it. -/
def HidesMark (line : Text) : Prop :=
  line.head?.any Point.isBlank = true ∧ line.trim.head? = some Point.byteOrderMark ∧
    ∃ p ∈ line.trim, p ≠ Point.byteOrderMark

/-- Decides without going through all points. -/
instance : DecidablePred HidesMark := fun line =>
  decidable_of_iff (line.head?.any Point.isBlank = true ∧
    line.trim.head? = some Point.byteOrderMark ∧
    line.trim.any (fun p => decide (p ≠ Point.byteOrderMark)) = true) (by
      simp only [HidesMark, List.any_eq_true, decide_eq_true_eq])

section Trimming

variable {line : Text}

theorem trimLine_mark_cons_of_isBlank (h : line.isBlank = true) :
    trimLine (Point.byteOrderMark :: line) = [] := by
  rw [← List.singleton_append, trimLine_append_blank_right (List.all_eq_true.mp h)]
  decide

theorem trim_mark_cons (h : line.trim ≠ []) :
    Text.trim (Point.byteOrderMark :: (line.takeWhile Point.isBlank ++ line.trim)) =
      Point.byteOrderMark :: (line.takeWhile Point.isBlank ++ line.trim) := by
  apply Text.trimBy_eq_self
  · intro p hp
    obtain rfl : Point.byteOrderMark = p := Option.some.inj hp
    decide
  · intro p hp
    rw [← List.cons_append, List.getLast?_append_of_ne_nil _ h] at hp
    exact Text.eq_false_of_mem_getLast?_trimBy hp

/-- The blanks between a mark and what is left of a line are not at an end before the mark is. -/
theorem trimLine_mark_cons_eq (h : line.trim ≠ []) :
    trimLine (Point.byteOrderMark :: line) =
      (Text.trimBy (· = Point.byteOrderMark)
        (line.takeWhile Point.isBlank ++ line.trim)).trim := by
  have hright : trimLine (Point.byteOrderMark :: line) =
      trimLine (Point.byteOrderMark :: (line.takeWhile Point.isBlank ++ line.trim)) := by
    have happend := trimLine_append_blank_right
      (fun p => List.mem_rtakeWhile_imp (l := line.dropWhile Point.isBlank))
      (Point.byteOrderMark :: (line.takeWhile Point.isBlank ++ line.trim))
    rwa [List.cons_append, Text.trim, Text.takeWhile_append_trimBy_append] at happend
  rw [hright, trimLine, trim_mark_cons h, ← List.singleton_append,
    Text.trimBy_append_of_forall_left (by simp)]

/-- Behind blanks that a mark protects, only the marks at the end are taken off. -/
theorem trimLine_mark_cons_of_blank (h : line.trim ≠ [])
    (hblank : line.head?.any Point.isBlank = true) :
    trimLine (Point.byteOrderMark :: line) =
      Text.trim (line.trim.rdropWhile (· = Point.byteOrderMark)) := by
  have hne : line.takeWhile Point.isBlank ≠ [] := by
    cases line with
    | nil => cases hblank
    | cons p line => simp [List.takeWhile_cons_of_pos (show p.isBlank = true from hblank)]
  have hunmarked : ∀ p ∈ line.takeWhile Point.isBlank,
      decide (p = Point.byteOrderMark) = false := by
    intro p hp
    rw [decide_eq_false_iff_not]
    rintro rfl
    exact absurd (List.mem_takeWhile_imp hp) (by decide)
  rw [trimLine_mark_cons_eq h, Text.trimBy_append hunmarked hne]
  exact Text.trimBy_append_of_forall_left (fun p => List.mem_takeWhile_imp) _

theorem trimLine_mark_cons_of_not_blank (h : line.trim ≠ [])
    (hblank : ¬ line.head?.any Point.isBlank = true) :
    trimLine (Point.byteOrderMark :: line) = trimLine line := by
  have hnil : line.takeWhile Point.isBlank = [] := by
    cases line with
    | nil => rfl
    | cons p line => exact List.takeWhile_cons_of_neg hblank
  rw [trimLine_mark_cons_eq h, hnil, List.nil_append, trimLine]

/-- **A mark before a line does not matter**, unless it keeps blanks before another one. -/
theorem trimLine_mark_cons (h : ¬ HidesMark line) :
    trimLine (Point.byteOrderMark :: line) = trimLine line := by
  by_cases hall : line.isBlank = true
  · rw [trimLine_mark_cons_of_isBlank hall, trimLine_of_isBlank hall]
  have hnil : line.trim ≠ [] := by
    rwa [Ne, Text.trim, Text.trimBy_eq_nil_iff, ← Conversion.isBlank_iff]
  by_cases hblank : line.head?.any Point.isBlank = true
  · have hends : (∀ p ∈ line.trim.head?, decide (p = Point.byteOrderMark) = false) ∨
        ∀ p ∈ line.trim, decide (p = Point.byteOrderMark) = true := by
      by_cases hhead : line.trim.head? = some Point.byteOrderMark
      · right
        intro p hp
        by_contra hne
        exact h ⟨hblank, hhead, p, hp, by simpa using hne⟩
      · left
        intro p hp
        rw [decide_eq_false_iff_not]
        rintro rfl
        exact hhead hp
    rw [trimLine_mark_cons_of_blank hnil hblank, trimLine, Text.trimBy_eq_rdropWhile_of hends]
  · exact trimLine_mark_cons_of_not_blank hnil hblank

theorem head?_trimLine_mark_cons (h : HidesMark line) :
    (trimLine (Point.byteOrderMark :: line)).head? = some Point.byteOrderMark := by
  obtain ⟨hblank, hhead, p, hp, hne⟩ := h
  have hinner : (line.trim.rdropWhile (· = Point.byteOrderMark)).head? =
      some Point.byteOrderMark := by
    rw [Text.head?_rdropWhile ⟨p, hp, by simpa using hne⟩, hhead]
  have hunblank : ∀ q ∈ (line.trim.rdropWhile (· = Point.byteOrderMark)).head?,
      q.isBlank = false := by
    intro q hq
    obtain rfl : Point.byteOrderMark = q := Option.some.inj (hinner.symm.trans hq)
    decide
  rw [trimLine_mark_cons_of_blank (List.ne_nil_of_mem hp) hblank, Text.trim,
    Text.trimBy_eq_rdropWhile_of (.inl hunblank), Text.head?_rdropWhile, hinner]
  exact ⟨_, List.mem_of_mem_head? hinner, by decide⟩

end Trimming

/-! ## The first line -/

/-- The line that a text begins with. -/
def Text.firstLine (s : Text) : Text := s.physicalLines.headD []

theorem physicalLines_eq_firstLine_cons (s : Text) :
    s.physicalLines = s.firstLine :: s.physicalLines.tail := by
  have hlength := Text.length_physicalLines s
  unfold Text.firstLine
  cases hs : s.physicalLines with
  | nil => simp [hs] at hlength
  | cons l ls => rfl

theorem physicalLines_mark_cons (s : Text) :
    Text.physicalLines (Point.byteOrderMark :: s) =
      (Point.byteOrderMark :: s.firstLine) :: s.physicalLines.tail := by
  rw [Text.physicalLines, if_neg (by decide), if_neg fun h => absurd h.1 (by decide),
    physicalLines_eq_firstLine_cons, Text.consFirst, List.tail_cons]

namespace Conversion

variable {s : Text}

/-- The first line means something, but opens no section. -/
def BeginsWithValue (s : Text) : Prop :=
  isSignificant (trimLine s.firstLine) = true ∧ ¬ IsHeader (trimLine s.firstLine)

theorem one_le_of_mem_significantLines {l : Nat × Text} (h : l ∈ significantLines s) :
    1 ≤ l.1 := by
  rw [significantLines_eq] at h
  exact le_of_mem_significantFrom h

theorem one_mem_significantLines_iff {line : Text} :
    (1, line) ∈ significantLines s ↔ isSignificant line = true ∧ line = trimLine s.firstLine := by
  rw [significantLines_eq, physicalLines_eq_firstLine_cons, List.map_cons, significantFrom_cons,
    List.mem_append]
  have hlater : (1, line) ∉ significantFrom 2 (s.physicalLines.tail.map trimLine) :=
    fun h => absurd (le_of_mem_significantFrom h) (Nat.not_succ_le_self 1)
  rw [or_iff_left hlater]
  constructor
  · intro h
    split_ifs at h with hsig
    · obtain rfl : line = trimLine s.firstLine := by simpa using h
      exact ⟨hsig, rfl⟩
    · cases h
  · rintro ⟨hsig, rfl⟩
    rw [if_pos hsig]
    exact List.mem_singleton_self _

/-- A value in the first line is refused, and nothing else is refused like it. -/
theorem convert_eq_valueOutsideSection_one_iff :
    convert s = .error (.rejected ⟨.valueOutsideSection, some 1⟩) ↔ BeginsWithValue s := by
  rw [convert_eq_rejected_iff_least]
  constructor
  · rintro ⟨⟨line, hmem, hbad⟩, -⟩
    obtain ⟨hsig, rfl⟩ := one_mem_significantLines_iff.mp hmem
    cases hbad with
    | valueOutsideSection value outside => exact ⟨hsig, value⟩
  · rintro ⟨hsig, value⟩
    refine ⟨⟨_, one_mem_significantLines_iff.mpr ⟨hsig, rfl⟩, .valueOutsideSection value ?_⟩, ?_⟩
    · rintro ⟨l, hl, hlt, -⟩
      have := one_le_of_mem_significantLines hl
      omega
    · intro m hm r hstop
      obtain ⟨line, hl⟩ := hstop.exists_mem
      have : 1 ≤ m := one_le_of_mem_significantLines hl
      omega

/-! ## Outcomes behind a mark -/

theorem significantLines_mark_cons (h : ¬ HidesMark s.firstLine) :
    significantLines (Point.byteOrderMark :: s) = significantLines s := by
  rw [significantLines_eq, significantLines_eq, physicalLines_mark_cons,
    physicalLines_eq_firstLine_cons, List.map_cons, List.map_cons, trimLine_mark_cons h,
    List.tail_cons]

theorem not_isBlank_mark_cons (s : Text) : ¬ Text.isBlank (Point.byteOrderMark :: s) = true := by
  rw [isBlank_iff]
  intro h
  exact absurd (h _ List.mem_cons_self) (by decide)

theorem not_hidesMark_of_isBlank (h : s.isBlank = true) : ¬ HidesMark s.firstLine := by
  rw [isBlank_eq_all_physicalLines, physicalLines_eq_firstLine_cons, List.all_cons,
    Bool.and_eq_true, isBlank_iff, ← Text.trimBy_eq_nil_iff] at h
  rintro ⟨-, -, p, hp, -⟩
  rw [Text.trim, h.1] at hp
  cases hp

theorem convert_mark_cons_of_isBlank (h : s.isBlank = true) :
    convert (Point.byteOrderMark :: s) = .ok [] := by
  rw [convert, run_of_not_isBlank (not_isBlank_mark_cons s),
    significantLines_mark_cons (not_hidesMark_of_isBlank h), significantLines_of_isBlank h]
  rfl

theorem convert_mark_cons_of_not_hidesMark (hs : ¬ s.isBlank = true)
    (h : ¬ HidesMark s.firstLine) : convert (Point.byteOrderMark :: s) = convert s := by
  rw [convert, convert, run_of_not_isBlank hs, run_of_not_isBlank (not_isBlank_mark_cons s),
    significantLines_mark_cons h]

theorem convert_mark_cons_of_hidesMark (h : HidesMark s.firstLine) :
    convert (Point.byteOrderMark :: s) =
      .error (.rejected ⟨.valueOutsideSection, some 1⟩) := by
  have hfirst : Text.firstLine (Point.byteOrderMark :: s) = Point.byteOrderMark :: s.firstLine := by
    rw [Text.firstLine, physicalLines_mark_cons, List.headD_cons]
  have hhead := head?_trimLine_mark_cons h
  rw [convert_eq_valueOutsideSection_one_iff, BeginsWithValue, hfirst]
  obtain ⟨rest, hrest⟩ := List.head?_eq_some_iff.mp hhead
  rw [hrest]
  have hbanner : Text.beginsWith banner (Point.byteOrderMark :: rest) = false := rfl
  constructor
  · simp [isSignificant, hbanner]
  · exact fun h => absurd (Option.some.inj h) (by decide)

/-- **A mark before a text does not matter**, unless there is nothing but blanks behind it, or the
first line hides a mark. A blank text is then not refused, and a first line that hides a mark is
taken for a value. -/
theorem convert_mark_cons (s : Text) :
    (convert (Point.byteOrderMark :: s) = convert s ↔
      ¬ s.isBlank = true ∧ (HidesMark s.firstLine → BeginsWithValue s)) ∧
    (s.isBlank = true → convert (Point.byteOrderMark :: s) = .ok []) ∧
    (HidesMark s.firstLine → convert (Point.byteOrderMark :: s) =
      .error (.rejected ⟨.valueOutsideSection, some 1⟩)) := by
  refine ⟨?_, convert_mark_cons_of_isBlank, convert_mark_cons_of_hidesMark⟩
  by_cases hs : s.isBlank = true
  · refine iff_of_false (fun he => ?_) fun h => h.1 hs
    rw [convert_mark_cons_of_isBlank hs, convert_of_isBlank hs] at he
    cases he
  by_cases h : HidesMark s.firstLine
  · rw [convert_mark_cons_of_hidesMark h, eq_comm, convert_eq_valueOutsideSection_one_iff]
    simp [hs, h]
  · simp [hs, h, convert_mark_cons_of_not_hidesMark hs h]

/-- A header behind a blank and a mark. -/
def padded : Text :=
  Point.space :: Point.byteOrderMark :: Text.ofString "[HKEY_USERS]"

theorem convert_mark_cons_padded :
    HidesMark padded.firstLine ∧
    convert padded = .ok (Text.ofString "New-Item -Path 'HKU:' -Force\n") ∧
    convert (Point.byteOrderMark :: padded) =
      .error (.rejected ⟨.valueOutsideSection, some 1⟩) := by
  have hides : HidesMark padded.firstLine := by decide +kernel
  exact ⟨hides, by rfl, (convert_mark_cons padded).2.2 hides⟩

/-- The empty text is refused, and a mark alone is not. -/
theorem convert_mark_ne :
    convert [] = .error (.rejected ⟨.emptyInput, none⟩) ∧
    convert [Point.byteOrderMark] = .ok [] ∧
    ¬ ∀ s : Text, convert (Point.byteOrderMark :: s) = convert s := by
  have hempty : convert [] = .error (.rejected ⟨.emptyInput, none⟩) := rfl
  have halone : convert [Point.byteOrderMark] = .ok [] := by rfl
  refine ⟨hempty, halone, fun h => ?_⟩
  rw [h [], hempty] at halone
  cases halone

end Conversion

end HiveScript
