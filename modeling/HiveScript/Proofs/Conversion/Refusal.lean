import HiveScript.Proofs.Conversion.Run

/-!
# Which line refuses a text

Whether a line is bad depends on the lines before it only through the question whether one of them
opens a section. A text is refused because of its first bad line.

* `InSection`, `BadAt`, `TooLongAt`: the lines of a numbered list that cannot be converted.
* **`refusal_iff_least`**: the refusal of a run is that of the least such line.
* `convert_first_bad`: when a text is refused, and why, if its numbers are short.
-/

namespace HiveScript.Conversion

/-! ## Lines that cannot be converted -/

/-- A header of a known hive stands before line `n`. -/
def InSection (ls : List (Nat × Text)) (n : Nat) : Prop := ∃ l ∈ ls, l.1 < n ∧ Opens l.2

/-- Line `n` is bad. -/
def BadAt (ls : List (Nat × Text)) (n : Nat) (reason : Reason) : Prop :=
  ∃ line, (n, line) ∈ ls ∧ Bad (InSection ls n) line reason

/-- Line `n` sets a value to a number that is too long. -/
def TooLongAt (ls : List (Nat × Text)) (n : Nat) : Prop :=
  ∃ line, (n, line) ∈ ls ∧ TooLong (InSection ls n) line

/-- Line `n` cannot be converted. -/
inductive Stops (ls : List (Nat × Text)) (n : Nat) : Refusal → Prop
  | rejected {reason : Reason} (h : BadAt ls n reason) : Stops ls n (.rejected ⟨reason, some n⟩)
  | tooLong (h : TooLongAt ls n) : Stops ls n .numeralTooLong

section

variable {ls pre post : List (Nat × Text)} {n : Nat} {line : Text}

/-- The key tells whether a section is open. -/
theorem openKey_ne_none_iff_inSection (h : Numbered (pre ++ (n, line) :: post)) :
    openKey none pre ≠ none ↔ InSection (pre ++ (n, line) :: post) n := by
  rw [openKey_ne_none_iff, InSection]
  simp only [ne_eq, not_true_eq_false, false_or, mem_iff_mem_and_lt h, and_assoc]

theorem command_eq_error_iff (h : Numbered (pre ++ (n, line) :: post)) {r : Refusal} :
    command (openKey none pre) n line = .error r ↔ Stops (pre ++ (n, line) :: post) n r := by
  have hk := propext (openKey_ne_none_iff_inSection h)
  have hm : (n, line) ∈ pre ++ (n, line) :: post := by simp
  constructor
  · intro he
    cases r with
    | rejected r =>
      obtain ⟨reason, hb, rfl⟩ := command_eq_rejected_iff.mp he
      exact .rejected ⟨line, hm, hk ▸ hb⟩
    | numeralTooLong => exact .tooLong ⟨line, hm, hk ▸ command_eq_numeralTooLong_iff.mp he⟩
  · intro hs
    cases hs with
    | @rejected reason hb =>
      obtain ⟨line', hl, hb⟩ := hb
      obtain rfl := line_unique h hl hm
      exact command_eq_rejected_iff.mpr ⟨reason, hk ▸ hb, rfl⟩
    | tooLong ht =>
      obtain ⟨line', hl, ht⟩ := ht
      obtain rfl := line_unique h hl hm
      exact command_eq_numeralTooLong_iff.mpr (hk ▸ ht)

theorem stops_rejected_iff {r : Rejection} :
    Stops ls n (.rejected r) ↔ ∃ reason, BadAt ls n reason ∧ r = ⟨reason, some n⟩ := by
  constructor
  · intro h
    cases h with
    | rejected hb => exact ⟨_, hb, rfl⟩
  · rintro ⟨reason, hb, rfl⟩
    exact .rejected hb

theorem stops_numeralTooLong_iff : Stops ls n .numeralTooLong ↔ TooLongAt ls n := by
  refine ⟨fun h => ?_, .tooLong⟩
  cases h with
  | tooLong ht => exact ht

theorem forall_not_stops_iff :
    (∀ r, ¬ Stops ls n r) ↔ (∀ reason, ¬ BadAt ls n reason) ∧ ¬ TooLongAt ls n := by
  constructor
  · exact fun h => ⟨fun reason hb => h _ (.rejected hb), fun ht => h _ (.tooLong ht)⟩
  · rintro ⟨hb, ht⟩ r hs
    cases hs with
    | rejected h => exact hb _ h
    | tooLong h => exact ht h

theorem Stops.exists_mem {r : Refusal} (h : Stops ls n r) : ∃ line, (n, line) ∈ ls := by
  cases h with
  | rejected h => exact ⟨h.choose, h.choose_spec.1⟩
  | tooLong h => exact ⟨h.choose, h.choose_spec.1⟩

theorem Stops.unique (hn : Numbered ls) {r r' : Refusal} (h : Stops ls n r)
    (h' : Stops ls n r') : r = r' := by
  obtain ⟨line, hl⟩ := h.exists_mem
  obtain ⟨pre, post, rfl⟩ := List.append_of_mem hl
  rw [← command_eq_error_iff hn] at h h'
  rw [h, Except.error.injEq] at h'
  exact h'

/-! ## The first of them -/

/-- No line of an accepted part stops. -/
theorem not_stops_of_accepted (hn : Numbered (pre ++ post)) (h : (runFrom none pre).2 = none)
    (hl : (n, line) ∈ pre) (r : Refusal) : ¬ Stops (pre ++ post) n r := by
  obtain ⟨before, after, rfl⟩ := List.append_of_mem hl
  obtain ⟨c, hc⟩ := exists_command_eq_ok h
  rw [List.append_assoc, List.cons_append] at hn ⊢
  rw [← command_eq_error_iff hn, hc]
  exact fun he => by cases he

theorem accepted_iff (hn : Numbered ls) :
    (runFrom none ls).2 = none ↔ ∀ n r, ¬ Stops ls n r := by
  constructor
  · intro h n r hs
    obtain ⟨line, hl⟩ := hs.exists_mem
    rw [← List.append_nil ls] at hn hs
    exact not_stops_of_accepted hn h hl r hs
  · intro h
    cases hr : (runFrom none ls).2 with
    | none => rfl
    | some r =>
      obtain ⟨pre, n, line, post, rfl, -, he⟩ := exists_refused_line hr
      exact absurd ((command_eq_error_iff hn).mp he) (h n r)

/-- **The refusal of a run is that of the least line that stops.** -/
theorem refusal_iff_least (hn : Numbered ls) {r : Refusal} : (runFrom none ls).2 = some r ↔
    ∃ n, Stops ls n r ∧ ∀ m < n, ∀ r', ¬ Stops ls m r' := by
  have hleast : ∀ {r}, (runFrom none ls).2 = some r →
      ∃ n, Stops ls n r ∧ ∀ m < n, ∀ r', ¬ Stops ls m r' := by
    intro r hr
    obtain ⟨pre, n, line, post, rfl, hp, he⟩ := exists_refused_line hr
    refine ⟨n, (command_eq_error_iff hn).mp he, fun m hm r' hs => ?_⟩
    obtain ⟨line', hl⟩ := hs.exists_mem
    exact not_stops_of_accepted hn hp ((mem_iff_mem_and_lt hn).mpr ⟨hl, hm⟩) r' hs
  refine ⟨hleast, ?_⟩
  rintro ⟨n, hs, hmin⟩
  -- The run has some least line that stops, and there is only one least line.
  cases hr : (runFrom none ls).2 with
  | none => exact absurd hs ((accepted_iff hn).mp hr n r)
  | some r' =>
    obtain ⟨n', hs', hmin'⟩ := hleast hr
    obtain rfl : n = n' := by
      rcases lt_trichotomy n n' with hlt | rfl | hlt
      · exact absurd hs (hmin' n hlt r)
      · rfl
      · exact absurd hs' (hmin n' hlt r')
    rw [hs.unique hn hs']

end

/-! ## Texts -/

section

variable {s : Text}

theorem isBlank_iff : s.isBlank = true ↔ ∀ p ∈ s, p.isBlank = true := by
  rw [Text.isBlank, List.all_eq_true]

theorem run_of_isBlank (h : s.isBlank = true) :
    run s = ([], some (.rejected ⟨.emptyInput, none⟩)) := by
  rw [run, if_pos h]

theorem run_of_not_isBlank (h : ¬ s.isBlank = true) :
    run s = runFrom none (significantLines s) := by
  rw [run, if_neg h]

theorem convert_eq_error_iff {r : Refusal} : convert s = .error r ↔ (run s).2 = some r := by
  rw [convert]
  split
  next cs h => simp [h]
  next cs r' h => simp [h]

theorem exists_convert_eq_ok_iff :
    (∃ script, convert s = .ok script) ↔ (run s).2 = none := by
  rw [convert]
  split
  next cs h => simp [h]
  next cs r' h => simp [h]

theorem convert_of_isBlank (h : s.isBlank = true) :
    convert s = .error (.rejected ⟨.emptyInput, none⟩) := by
  rw [convert_eq_error_iff, run_of_isBlank h]

/-- The refusal of a text that is not blank. -/
theorem convert_eq_error_iff_least (hs : ¬ s.isBlank = true) {r : Refusal} :
    convert s = .error r ↔ ∃ n, Stops (significantLines s) n r ∧
      ∀ m < n, ∀ r', ¬ Stops (significantLines s) m r' := by
  rw [convert_eq_error_iff, run_of_not_isBlank hs, refusal_iff_least (numbered_significantLines s)]

theorem line_le_of_convert_eq_rejected {r : Rejection} (h : convert s = .error (.rejected r)) :
    ∀ n ∈ r.line, n ≤ s.length + 1 := by
  by_cases hs : s.isBlank = true
  · rw [convert_of_isBlank hs] at h
    obtain rfl := Refusal.rejected.inj (Except.error.inj h)
    exact nofun
  · obtain ⟨m, hstop, -⟩ := (convert_eq_error_iff_least hs).mp h
    cases hstop with
    | rejected hbad =>
      obtain ⟨line, hl, -⟩ := hbad
      rintro n ⟨⟩
      exact le_of_mem_significantLines hl

theorem exists_convert_eq_ok_iff_forall (hs : ¬ s.isBlank = true) :
    (∃ script, convert s = .ok script) ↔ ∀ n r, ¬ Stops (significantLines s) n r := by
  rw [exists_convert_eq_ok_iff, run_of_not_isBlank hs, accepted_iff (numbered_significantLines s)]

end

/-! ## Texts with short numbers -/

/-- No line sets a value to a number that is written with more than 3500 points. -/
def ShortNumbers (s : Text) : Prop :=
  ∀ l ∈ significantLines s, ∀ w, SetsNumber l.2 w → w.length ≤ 3500

/-- Line `n` is the first bad line. -/
def FirstBad (ls : List (Nat × Text)) (n : Nat) (reason : Reason) : Prop :=
  BadAt ls n reason ∧ ∀ m < n, ∀ reason', ¬ BadAt ls m reason'

section

variable {s : Text} (short : ShortNumbers s)

include short

theorem not_tooLongAt_of_short (n : Nat) : ¬ TooLongAt (significantLines s) n := by
  rintro ⟨line, hl, -, w, hw, hd, hle⟩
  exact absurd (Datum.hexValue_lt_limit hd (short (n, line) hl w hw)) (not_lt.mpr hle)

/-- Where numbers are short, only bad lines stop. -/
theorem forall_not_stops_iff_of_short {n : Nat} : (∀ r, ¬ Stops (significantLines s) n r) ↔
    ∀ reason, ¬ BadAt (significantLines s) n reason :=
  forall_not_stops_iff.trans (and_iff_left (not_tooLongAt_of_short short n))

variable (hs : ¬ s.isBlank = true)

include hs

theorem convert_eq_rejected_iff_of_short {r : Rejection} : convert s = .error (.rejected r) ↔
    ∃ n reason, FirstBad (significantLines s) n reason ∧ r = ⟨reason, some n⟩ := by
  simp only [convert_eq_error_iff_least hs, stops_rejected_iff,
    forall_not_stops_iff_of_short short, FirstBad]
  constructor
  · rintro ⟨n, ⟨reason, hb, rfl⟩, hmin⟩
    exact ⟨n, reason, ⟨hb, hmin⟩, rfl⟩
  · rintro ⟨n, reason, ⟨hb, hmin⟩, rfl⟩
    exact ⟨n, ⟨reason, hb, rfl⟩, hmin⟩

theorem exists_convert_eq_ok_iff_of_short : (∃ script, convert s = .ok script) ↔
    ¬ ∃ n reason, BadAt (significantLines s) n reason := by
  simp only [exists_convert_eq_ok_iff_forall hs, forall_not_stops_iff_of_short short, not_exists]

theorem exists_convert_eq_rejected_iff_of_short : (∃ r, convert s = .error (.rejected r)) ↔
    ∃ n reason, BadAt (significantLines s) n reason := by
  constructor
  · rintro ⟨r, hr⟩
    obtain ⟨n, reason, hb, -⟩ := (convert_eq_rejected_iff_of_short short hs).mp hr
    exact ⟨n, reason, hb.1⟩
  · intro hb
    cases hc : convert s with
    | ok script => exact absurd hb ((exists_convert_eq_ok_iff_of_short short hs).mp ⟨script, hc⟩)
    | error r =>
      cases r with
      | rejected r => exact ⟨r, rfl⟩
      | numeralTooLong =>
        obtain ⟨n, ht, -⟩ := (convert_eq_error_iff_least hs).mp hc
        exact absurd (stops_numeralTooLong_iff.mp ht) (not_tooLongAt_of_short short n)

end

/-- **A text with short numbers is refused because of its first bad line, and only then.** -/
theorem convert_first_bad (s : Text) (short : ShortNumbers s) :
    (convert s = .error (.rejected ⟨.emptyInput, none⟩) ↔ ∀ p ∈ s, p.isBlank = true) ∧
    ((¬ ∀ p ∈ s, p.isBlank = true) →
      ((∃ r, convert s = .error (.rejected r)) ↔
        ∃ n reason, BadAt (significantLines s) n reason) ∧
      (∀ r, convert s = .error (.rejected r) ↔
        ∃ n reason, FirstBad (significantLines s) n reason ∧ r = ⟨reason, some n⟩) ∧
      ((∃ script, convert s = .ok script) ↔
        ¬ ∃ n reason, BadAt (significantLines s) n reason)) := by
  simp only [← isBlank_iff]
  refine ⟨⟨fun h => ?_, convert_of_isBlank⟩, fun hs => ⟨?_, fun r => ?_, ?_⟩⟩
  · -- A bad line has a number, which the refusal of an empty text has not.
    by_contra hs
    obtain ⟨n, reason, -, he⟩ := (convert_eq_rejected_iff_of_short short hs).mp h
    cases he
  · exact exists_convert_eq_rejected_iff_of_short short hs
  · exact convert_eq_rejected_iff_of_short short hs
  · exact exists_convert_eq_ok_iff_of_short short hs

/-- A text with two bad lines, the fifth and the sixth, and line ends of both kinds. -/
def twoBadLines : Text :=
  "\uFEFFWindows Registry Editor Version 5.00\r\n\r\n[HKEY_USERS\\A]\n\"n\"=\"1\"\r\n" ++
    Text.ofString " x = dword:0x1 \n[HKEY"

theorem convert_first_bad_twoBadLines :
    ShortNumbers twoBadLines ∧ FirstBad (significantLines twoBadLines) 5 .invalidDword := by
  have hlen : ∀ l ∈ significantLines twoBadLines, l.2.length ≤ 3500 := by decide +kernel
  have short : ShortNumbers twoBadLines := fun l hl w hw => hw.length_le.trans (hlen l hl)
  have hs : ¬ ∀ p ∈ twoBadLines, p.isBlank = true := fun h =>
    absurd (h (Point.ofChar 'W') (by decide)) (by decide)
  have hc : convert twoBadLines = .error (.rejected ⟨.invalidDword, some 5⟩) := by rfl
  obtain ⟨n, reason, hb, he⟩ := (((convert_first_bad twoBadLines short).2 hs).2.1 _).mp hc
  obtain ⟨rfl, rfl⟩ : Reason.invalidDword = reason ∧ 5 = n := by simpa using he
  exact ⟨short, hb⟩

end HiveScript.Conversion
