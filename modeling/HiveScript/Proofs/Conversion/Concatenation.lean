import HiveScript.Proofs.Conversion.Run
import HiveScript.Proofs.Conversion.Refusal

/-!
# Texts one after the other

The second of two texts is read under the key that the first one leaves open, and its lines have
higher numbers. A text that is converted by itself, or refused for something else than a value
outside of sections, cannot tell the difference.

* `trimLine_append_carriageReturn`: the end of a line does not matter.
* `significantLines_append`: the lines of two texts with a line feed between them.
* `Refusal.renumber`, **`runFrom_map_renumber`**: runs over lines with other numbers.
* `Refusal.later`, `runFrom_map_later`: runs over lines with higher ones.
* **`runFrom_eq_of_inside`**: runs that differ in the key that is open at first.
* `convert_append`: the scripts and the refusals of two texts.
-/

namespace HiveScript

/-! ## Lines of two texts -/

theorem trimLine_append_carriageReturn (l : Text) :
    trimLine (l ++ [Point.carriageReturn]) = trimLine l := by
  apply trimLine_append_blank_right
  intro p hp
  rw [List.mem_singleton.mp hp]
  rfl

/-- A line with a higher number. -/
def laterLine (k : Nat) (l : Nat × α) : Nat × α := (l.1 + k, l.2)

theorem numberedLines_eq (s : Text) :
    numberedLines s = ((s.physicalLines.map trimLine).zipIdx 1).map Prod.swap := by
  rw [List.zipIdx_map, List.map_map]
  rfl

theorem numberedLines_append (a b : Text) :
    numberedLines (a ++ Point.lineFeed :: b) =
      numberedLines a ++ (numberedLines b).map (laterLine (a.count Point.lineFeed + 1)) := by
  rw [numberedLines_eq, numberedLines_eq, numberedLines_eq,
    Text.map_physicalLines_append trimLine_append_carriageReturn, List.zipIdx_append,
    List.map_append, List.length_map, Text.length_physicalLines, Nat.add_comm 1,
    ← List.map_snd_add_zipIdx_eq_zipIdx, List.map_map, List.map_map]
  rfl

theorem significantLines_append (a b : Text) :
    significantLines (a ++ Point.lineFeed :: b) =
      significantLines a ++ (significantLines b).map (laterLine (a.count Point.lineFeed + 1)) := by
  rw [significantLines, numberedLines_append, List.filter_append, List.filter_map]
  rfl

/-! ## Other numbers -/

/-- The refusal of a line with another number. -/
def Refusal.renumber (f : Nat → Nat) : Refusal → Refusal
  | rejected r => rejected { r with line := r.line.map f }
  | numeralTooLong => numeralTooLong

/-- The refusal of a line with a higher number. -/
def Refusal.later (k : Nat) : Refusal → Refusal
  | rejected r => rejected { r with line := r.line.map (· + k) }
  | numeralTooLong => numeralTooLong

theorem Refusal.renumber_add (k : Nat) : Refusal.renumber (· + k) = Refusal.later k := by
  funext r
  cases r <;> rfl

namespace Conversion

theorem command_renumber (f : Nat → Nat) (key : Option Text) (n : Nat) (line : Text) :
    command key (f n) line = (command key n line).mapError (Refusal.renumber f) := by
  cases h : command key n line with
  | ok c => exact command_eq_ok_iff.mpr (command_eq_ok_iff.mp h)
  | error r =>
    cases r with
    | rejected r =>
      obtain ⟨reason, hb, rfl⟩ := command_eq_rejected_iff.mp h
      exact command_eq_rejected_iff.mpr ⟨reason, hb, rfl⟩
    | numeralTooLong =>
      exact command_eq_numeralTooLong_iff.mpr (command_eq_numeralTooLong_iff.mp h)

/-- **A run does not depend on the numbers of the lines**, but for those that it tells. -/
theorem runFrom_map_renumber (f : Nat → Nat) (key : Option Text) (ls : List (Nat × Text)) :
    runFrom key (ls.map (Prod.map f id)) =
      ((runFrom key ls).1.map (Prod.map f id), (runFrom key ls).2.map (Refusal.renumber f)) := by
  induction ls generalizing key with
  | nil => rfl
  | cons l ls ih =>
    obtain ⟨n, line⟩ := l
    have hcommand := command_renumber f key n line
    rw [List.map_cons, Prod.map_apply, id]
    cases hc : command key n line with
    | error r =>
      rw [hc] at hcommand
      rw [runFrom_cons_of_error hc, runFrom_cons_of_error hcommand]
      rfl
    | ok c =>
      rw [hc] at hcommand
      rw [runFrom_cons_of_ok hc, runFrom_cons_of_ok hcommand, ih]
      rfl

theorem runFrom_map_later (k : Nat) (key : Option Text) (ls : List (Nat × Text)) :
    runFrom key (ls.map (laterLine k)) =
      ((runFrom key ls).1.map (laterLine k), (runFrom key ls).2.map (Refusal.later k)) := by
  rw [← Refusal.renumber_add]
  exact runFrom_map_renumber (· + k) key ls

/-! ## Another key at first -/

/-- What is accepted without a key opens one, and the key that was open before is forgotten. -/
theorem becomes_of_becomes_none {line : Text} {c : Command} (h : Becomes none line c)
    (key : Option Text) : Becomes key line c ∧ (opened? line).or key = (opened? line).or none := by
  cases h with
  | header hd => exact ⟨.header hd, by rw [opened?_headerLine, hd]; rfl⟩
  | value hkey _ _ _ => cases hkey

/-- What is bad without a key is bad anyway, but for a value that only lacks a section. -/
theorem bad_of_bad_outside {line : Text} {reason : Reason}
    (h : Bad (none ≠ (none : Option Text)) line reason) (hr : reason ≠ .valueOutsideSection)
    (inside : Prop) : Bad inside line reason := by
  cases h with
  | malformedSectionHeader hh hl => exact .malformedSectionHeader hh hl
  | unknownHive hh hu => exact .unknownHive hh hu
  | valueOutsideSection _ _ => exact absurd rfl hr
  | missingEquals _ hi _ => exact absurd rfl hi
  | invalidDword hi _ _ => exact absurd rfl hi

/-- **A run that meets no value outside of sections does not depend on the key that is open at
first.** -/
theorem runFrom_eq_of_inside {ls : List (Nat × Text)}
    (h : ∀ n, (runFrom none ls).2 ≠ some (.rejected ⟨.valueOutsideSection, n⟩))
    (key : Option Text) : runFrom key ls = runFrom none ls := by
  cases ls with
  | nil => rfl
  | cons l ls =>
    obtain ⟨n, line⟩ := l
    cases hc : command none n line with
    | ok c =>
      -- After its first header both runs have the same key open, so that no induction is needed.
      obtain ⟨hb, hkey⟩ := becomes_of_becomes_none (command_eq_ok_iff.mp hc) key
      rw [runFrom_cons_of_ok hc, runFrom_cons_of_ok (command_eq_ok_iff.mpr hb), hkey]
    | error r =>
      rw [runFrom_cons_of_error hc] at h ⊢
      cases r with
      | rejected r =>
        obtain ⟨reason, hb, rfl⟩ := command_eq_rejected_iff.mp hc
        have hr : reason ≠ .valueOutsideSection := fun he => h (some n) (by rw [he])
        exact runFrom_cons_of_error
          (command_eq_rejected_iff.mpr ⟨reason, bad_of_bad_outside hb hr _, rfl⟩) ls
      | numeralTooLong => exact absurd rfl (command_eq_numeralTooLong_iff.mp hc).1

/-! ## Two texts -/

section

variable {a b : Text}

theorem not_isBlank_of_accepted (h : (run a).2 = none) : ¬ a.isBlank = true := by
  intro ha
  rw [run_of_isBlank ha] at h
  cases h

/-- Only blank texts are refused without a line. -/
theorem not_isBlank_of_refused_at {reason : Reason} {k : Nat}
    (h : convert a = .error (.rejected ⟨reason, some k⟩)) : ¬ a.isBlank = true := by
  intro ha
  rw [convert_of_isBlank ha] at h
  cases h

theorem not_isBlank_append (ha : ¬ a.isBlank = true) (b : Text) :
    ¬ Text.isBlank (a ++ Point.lineFeed :: b) = true := by
  rw [isBlank_iff] at ha ⊢
  exact fun h => ha fun p hp => h p (List.mem_append_left _ hp)

/-- A text that is refused is refused before its end. -/
theorem run_append_of_refused (ha : ¬ a.isBlank = true) {r : Refusal} (h : (run a).2 = some r)
    (b : Text) : run (a ++ Point.lineFeed :: b) = run a := by
  rw [run_of_not_isBlank ha] at h ⊢
  rw [run_of_not_isBlank (not_isBlank_append ha b), significantLines_append]
  rw [runFrom_append_of_refused (Prod.ext rfl h)]
  exact Prod.ext rfl h.symm

/-- **The run over two texts is the one over the first text and the one over the second text, with
higher numbers.** -/
theorem run_append_of_accepted (ha : (run a).2 = none) (hb : ¬ b.isBlank = true)
    (ho : ∀ n, (run b).2 ≠ some (.rejected ⟨.valueOutsideSection, n⟩)) :
    run (a ++ Point.lineFeed :: b) =
      ((run a).1 ++ (run b).1.map (laterLine (a.count Point.lineFeed + 1)),
        (run b).2.map (Refusal.later (a.count Point.lineFeed + 1))) := by
  have hn := not_isBlank_of_accepted ha
  rw [run_of_not_isBlank hn] at ha ⊢
  rw [run_of_not_isBlank hb] at ho ⊢
  rw [run_of_not_isBlank (not_isBlank_append hn b), significantLines_append,
    runFrom_append_of_accepted (Prod.ext rfl ha), runFrom_map_later, runFrom_eq_of_inside ho]

theorem convert_eq_ok_iff_run {s script : Text} : convert s = .ok script ↔
    (run s).2 = none ∧ script = scriptOf ((run s).1.map Prod.snd) := by
  rw [convert]
  split
  next cs h => simp [h, eq_comm]
  next cs r h => simp [h]

end

/-- **The scripts of two texts stand one after the other, the refusal of the first text stays, and
that of the second one comes later.** -/
theorem convert_append (a b : Text) :
    (∀ A B, convert a = .ok A → convert b = .ok B →
      convert (a ++ Point.lineFeed :: b) = .ok (A ++ B)) ∧
    (∀ reason k, convert a = .error (.rejected ⟨reason, some k⟩) →
      convert (a ++ Point.lineFeed :: b) = .error (.rejected ⟨reason, some k⟩)) ∧
    (∀ A reason k, convert a = .ok A → convert b = .error (.rejected ⟨reason, some k⟩) →
      reason ≠ .valueOutsideSection →
      convert (a ++ Point.lineFeed :: b) =
        .error (.rejected ⟨reason, some (a.count Point.lineFeed + 1 + k)⟩)) := by
  refine ⟨fun A B hA hB => ?_, fun reason k hr => ?_, fun A reason k hA hr ho => ?_⟩
  · obtain ⟨ha, rfl⟩ := convert_eq_ok_iff_run.mp hA
    obtain ⟨hb, rfl⟩ := convert_eq_ok_iff_run.mp hB
    have hrun := run_append_of_accepted ha (not_isBlank_of_accepted hb) fun n h => by
      rw [hb] at h
      cases h
    refine convert_eq_ok_iff_run.mpr ⟨by rw [hrun, hb]; rfl, ?_⟩
    rw [hrun, List.map_append, List.map_map, scriptOf, scriptOf, scriptOf, List.flatMap_append]
    rfl
  · have hn := not_isBlank_of_refused_at hr
    rw [convert_eq_error_iff] at hr ⊢
    rw [run_append_of_refused hn hr, hr]
  · have hn := not_isBlank_of_refused_at hr
    rw [convert_eq_error_iff] at hr ⊢
    have hrun := run_append_of_accepted (convert_eq_ok_iff_run.mp hA).1 hn fun n h => by
      rw [hr] at h
      cases h
      exact ho rfl
    rw [hrun, hr, Nat.add_comm _ k]
    rfl

/-- A text whose last line ends in half of a line end. -/
def oneValue : Text := "[HKEY_USERS]\nx=1\r"

def oneValueScript : Text :=
  "New-Item -Path 'HKU:' -Force\nSet-ItemProperty -Path 'HKU:' -Name 'x' -Value '1' -Type String\n"

/-- A text that is refused in its third line. -/
def oneBadValue : Text := "[HKEY_CURRENT_USER]\n\ny=dword:g"

theorem convert_append_oneValue :
    convert (oneValue ++ Point.lineFeed :: oneValue) = .ok (oneValueScript ++ oneValueScript) ∧
    convert (oneBadValue ++ Point.lineFeed :: oneValue) =
      .error (.rejected ⟨.invalidDword, some 3⟩) ∧
    convert (oneValue ++ Point.lineFeed :: oneBadValue) =
      .error (.rejected ⟨.invalidDword, some (1 + 1 + 3)⟩) := by
  have hv : convert oneValue = .ok oneValueScript :=
    convert_eq_ok_of_toOption (by decide +kernel)
  have hb : convert oneBadValue = .error (.rejected ⟨.invalidDword, some 3⟩) := by rfl
  exact ⟨(convert_append oneValue oneValue).1 _ _ hv hv,
    (convert_append oneBadValue oneValue).2.1 _ _ hb,
    (convert_append oneValue oneBadValue).2.2 _ _ _ hv hb (by decide)⟩

end Conversion

end HiveScript
