import HiveScript.Conversion.Basic
import HiveScript.Proofs.Registry.Datum
import HiveScript.Proofs.Registry.Hive

/-!
# The command of one line

A significant line has one of four shapes, and each shape decides what becomes of the line.

* `IsHeader`, `headerLine`, `Opens`: lines that begin with a bracket, the header of a path, and the
  headers of known hives.
* `Shape`, `shape`: the four shapes, with one equation of `command` for each way they are read.
* `Becomes`, `Bad`, `TooLong`: what an accepted line becomes, what is bad about a rejected one, and
  numbers that cannot be written; **`outcome_command`**: there is no fourth way.
* `command_eq_ok_iff`, **`command_eq_rejected_iff`**, `command_eq_numeralTooLong_iff`.
* `opened?`, **`Becomes.key_eq`**: the key that is open after a line.
-/

namespace HiveScript.Conversion

/-! ## Shapes of lines -/

/-- The line begins like the header of a section. -/
def IsHeader (line : Text) : Prop := line.head? = some (Point.ofChar '[')

instance : DecidablePred IsHeader := fun line =>
  inferInstanceAs (Decidable (line.head? = some (Point.ofChar '[')))

/-- The header of a section. -/
def headerLine (content : Text) : Text := Point.ofChar '[' :: (content ++ [Point.ofChar ']'])

/-- The line is a header of a known hive. -/
def Opens (line : Text) : Prop := ∃ (h : Hive) (suffix : Text), line = headerLine (h.name ++ suffix)

/-- The shapes of lines. -/
inductive Shape : Text → Prop
  | unclosed {line : Text} (header : IsHeader line)
      (last : line.getLast? ≠ some (Point.ofChar ']')) : Shape line
  | header (content : Text) : Shape (headerLine content)
  | noEquals {line : Text} (value : ¬ IsHeader line) (absent : Point.ofChar '=' ∉ line) : Shape line
  | value {name rest : Text} (value : ¬ IsHeader (name ++ Point.ofChar '=' :: rest))
      (first : Point.ofChar '=' ∉ name) : Shape (name ++ Point.ofChar '=' :: rest)

theorem isHeader_headerLine (content : Text) : IsHeader (headerLine content) := rfl

theorem getLast?_headerLine (content : Text) :
    (headerLine content).getLast? = some (Point.ofChar ']') := by
  rw [headerLine, ← List.cons_append, List.getLast?_append]
  rfl

theorem content_headerLine (content : Text) : (headerLine content).tail.dropLast = content := by
  rw [headerLine, List.tail_cons, List.dropLast_concat]

theorem exists_eq_headerLine {line : Text} (h : IsHeader line)
    (hl : line.getLast? = some (Point.ofChar ']')) : ∃ content, line = headerLine content := by
  obtain ⟨tail, rfl⟩ := List.head?_eq_some_iff.mp h
  rcases List.eq_nil_or_concat tail with rfl | ⟨content, p, rfl⟩
  · exact absurd hl (by decide)
  · rw [List.concat_eq_append] at hl ⊢
    rw [← List.cons_append, List.getLast?_append, List.getLast?_singleton, Option.some_or,
      Option.some.injEq] at hl
    exact ⟨content, by rw [headerLine, hl]⟩

theorem shape (line : Text) : Shape line := by
  by_cases hh : IsHeader line
  · by_cases hl : line.getLast? = some (Point.ofChar ']')
    · obtain ⟨content, rfl⟩ := exists_eq_headerLine hh hl
      exact .header content
    · exact .unclosed hh hl
  · cases hc : Text.cut? (Point.ofChar '=') line with
    | none => exact .noEquals hh (Text.cut?_eq_none_iff.mp hc)
    | some c =>
      obtain ⟨rfl, hn⟩ := Text.cut?_eq_some_iff.mp hc
      exact .value hh hn

/-! ## Commands by shape -/

section Equations

variable (key : Option Text) (path : Text) (n : Nat) {line : Text}

theorem command_eq : command key n line =
    if IsHeader line then header n line else value key n line := rfl

theorem command_unclosed (h : IsHeader line) (hl : line.getLast? ≠ some (Point.ofChar ']')) :
    command key n line = reject .malformedSectionHeader n := by
  rw [command_eq, if_pos h, header, if_neg hl]

theorem command_header {content : Text} (h : Hive.drivePath? content = some path) :
    command key n (headerLine content) = .ok (.createKey path) := by
  rw [command_eq, if_pos (isHeader_headerLine content), header,
    if_pos (getLast?_headerLine content), content_headerLine, h]

theorem command_unknownHive {content : Text} (h : Hive.drivePath? content = none) :
    command key n (headerLine content) = reject .unknownHive n := by
  rw [command_eq, if_pos (isHeader_headerLine content), header,
    if_pos (getLast?_headerLine content), content_headerLine, h]

theorem command_outside (h : ¬ IsHeader line) :
    command none n line = reject .valueOutsideSection n := by
  rw [command_eq, if_neg h, value]

theorem command_noEquals (h : ¬ IsHeader line) (he : Point.ofChar '=' ∉ line) :
    command (some path) n line = reject .missingEquals n := by
  rw [command_eq, if_neg h, value, Text.cut?_eq_none_iff.mpr he]

variable {name rest : Text} (h : ¬ IsHeader (name ++ Point.ofChar '=' :: rest))
  (hn : Point.ofChar '=' ∉ name)

include h hn

theorem command_value {datum : Datum} (hd : Datum.read rest.trim = .ok datum) :
    command (some path) n (name ++ Point.ofChar '=' :: rest) =
      .ok (.setValue path (Datum.unquote name) datum) := by
  rw [command_eq, if_neg h, value, Text.cut?_append_cons hn]
  simp only [hd]

theorem command_invalidDword (hd : Datum.read rest.trim = .error .invalidDword) :
    command (some path) n (name ++ Point.ofChar '=' :: rest) = reject .invalidDword n := by
  rw [command_eq, if_neg h, value, Text.cut?_append_cons hn]
  simp only [hd]

theorem command_numeralTooLong (hd : Datum.read rest.trim = .error .numeralTooLong) :
    command (some path) n (name ++ Point.ofChar '=' :: rest) = .error .numeralTooLong := by
  rw [command_eq, if_neg h, value, Text.cut?_append_cons hn]
  simp only [hd]

end Equations

/-! ## Outcomes -/

/-- What an accepted line becomes under the key that is open. -/
inductive Becomes (key : Option Text) : Text → Command → Prop
  | header {content path : Text} (known : Hive.drivePath? content = some path) :
      Becomes key (headerLine content) (.createKey path)
  | value {path name rest : Text} {datum : Datum} (isOpen : key = some path)
      (value : ¬ IsHeader (name ++ Point.ofChar '=' :: rest)) (first : Point.ofChar '=' ∉ name)
      (read : Datum.read rest.trim = .ok datum) :
      Becomes key (name ++ Point.ofChar '=' :: rest) (.setValue path (Datum.unquote name) datum)

/-- The line sets a value to what is written as the tag of numbers and `w`. -/
def SetsNumber (line w : Text) : Prop :=
  ¬ IsHeader line ∧ ∃ name rest : Text, line = name ++ Point.ofChar '=' :: rest ∧
    Point.ofChar '=' ∉ name ∧ rest.trim = Datum.dwordTag ++ w

theorem SetsNumber.length_le {line w : Text} (h : SetsNumber line w) : w.length ≤ line.length := by
  obtain ⟨-, name, rest, rfl, -, ht⟩ := h
  have hr : rest.trim.length ≤ rest.length := Text.length_trimBy_le Point.isBlank rest
  rw [ht, List.length_append] at hr
  rw [List.length_append, List.length_cons]
  omega

/-- Why a line is bad, where `inside` says that a section is open. -/
inductive Bad (inside : Prop) (line : Text) : Reason → Prop
  | malformedSectionHeader (header : IsHeader line)
      (last : line.getLast? ≠ some (Point.ofChar ']')) : Bad inside line .malformedSectionHeader
  | unknownHive {content : Text} (header : line = headerLine content)
      (unknown : ∀ h : Hive, ¬ h.name <+: content) : Bad inside line .unknownHive
  | valueOutsideSection (value : ¬ IsHeader line) (outside : ¬ inside) :
      Bad inside line .valueOutsideSection
  | missingEquals (value : ¬ IsHeader line) (isOpen : inside) (absent : Point.ofChar '=' ∉ line) :
      Bad inside line .missingEquals
  | invalidDword {w : Text} (isOpen : inside) (number : SetsNumber line w)
      (malformed : ¬ Numeral.IsHexNumeral w) : Bad inside line .invalidDword

/-- The line sets a value to a number whose decimal numeral is too long. -/
def TooLong (inside : Prop) (line : Text) : Prop :=
  inside ∧ ∃ w, SetsNumber line w ∧ Numeral.IsHexNumeral w ∧ Numeral.limit ≤ Numeral.hexValue w

/-- What becomes of a line. -/
inductive Outcome (key : Option Text) (n : Nat) (line : Text) : Except Refusal Command → Prop
  | accepted {c : Command} (h : Becomes key line c) : Outcome key n line (.ok c)
  | rejected {reason : Reason} (h : Bad (key ≠ none) line reason) :
      Outcome key n line (.error (.rejected ⟨reason, some n⟩))
  | tooLong (h : TooLong (key ≠ none) line) : Outcome key n line (.error .numeralTooLong)

section

variable (key : Option Text) (n : Nat) {line : Text}

/-- A value line in an open section has the outcome that its right side has. -/
theorem outcome_value (path : Text) {name rest : Text}
    (hv : ¬ IsHeader (name ++ Point.ofChar '=' :: rest)) (hf : Point.ofChar '=' ∉ name) :
    Outcome (some path) n (name ++ Point.ofChar '=' :: rest)
      (command (some path) n (name ++ Point.ofChar '=' :: rest)) := by
  cases hd : Datum.read rest.trim with
  | ok datum =>
    rw [command_value path n hv hf hd]
    exact .accepted (.value rfl hv hf hd)
  | error e =>
    obtain ⟨w, hw, he⟩ := Datum.read_eq_error_iff.mp hd
    have hs : SetsNumber (name ++ Point.ofChar '=' :: rest) w := ⟨hv, name, rest, rfl, hf, hw⟩
    cases e with
    | invalidDword =>
      rw [command_invalidDword path n hv hf hd]
      exact .rejected (.invalidDword (Option.some_ne_none path) hs
        (Datum.readDword_eq_invalidDword_iff.mp he))
    | numeralTooLong =>
      rw [command_numeralTooLong path n hv hf hd]
      exact .tooLong ⟨Option.some_ne_none path, w, hs,
        Datum.readDword_eq_numeralTooLong_iff.mp he⟩

/-- **A line is accepted, bad, or too long a number.** -/
theorem outcome_command (line : Text) : Outcome key n line (command key n line) := by
  cases shape line with
  | unclosed hh hl =>
    rw [command_unclosed key n hh hl]
    exact .rejected (.malformedSectionHeader hh hl)
  | header content =>
    cases hd : Hive.drivePath? content with
    | none =>
      rw [command_unknownHive key n hd]
      exact .rejected (.unknownHive rfl (Hive.drivePath?_eq_none_iff.mp hd))
    | some path =>
      rw [command_header key path n hd]
      exact .accepted (.header hd)
  | noEquals hv ha =>
    cases key with
    | none =>
      rw [command_outside n hv]
      exact .rejected (.valueOutsideSection hv (not_not.mpr rfl))
    | some path =>
      rw [command_noEquals path n hv ha]
      exact .rejected (.missingEquals hv (Option.some_ne_none path) ha)
  | value hv hf =>
    cases key with
    | none =>
      rw [command_outside n hv]
      exact .rejected (.valueOutsideSection hv (not_not.mpr rfl))
    | some path => exact outcome_value n path hv hf

variable {key n}

theorem command_eq_ok_iff {c : Command} : command key n line = .ok c ↔ Becomes key line c := by
  constructor
  · intro h
    have ho := outcome_command key n line
    rw [h] at ho
    cases ho with
    | accepted hb => exact hb
  · intro h
    cases h with
    | header hd => exact command_header key _ n hd
    | value hk hv hf hd => rw [hk]; exact command_value _ n hv hf hd

/-- **A line is rejected for what is bad about it.** -/
theorem command_eq_rejected_iff {r : Rejection} : command key n line = .error (.rejected r) ↔
    ∃ reason, Bad (key ≠ none) line reason ∧ r = ⟨reason, some n⟩ := by
  constructor
  · intro h
    have ho := outcome_command key n line
    rw [h] at ho
    cases ho with
    | rejected hb => exact ⟨_, hb, rfl⟩
  · rintro ⟨reason, hb, rfl⟩
    cases hb with
    | malformedSectionHeader hh hl => exact command_unclosed key n hh hl
    | unknownHive he hu =>
      rw [he]
      exact command_unknownHive key n (Hive.drivePath?_eq_none_iff.mpr hu)
    | valueOutsideSection hv ho =>
      rw [not_not.mp ho]
      exact command_outside n hv
    | missingEquals hv hi ha =>
      obtain ⟨path, rfl⟩ := Option.ne_none_iff_exists'.mp hi
      exact command_noEquals path n hv ha
    | invalidDword hi hs hw =>
      obtain ⟨path, rfl⟩ := Option.ne_none_iff_exists'.mp hi
      obtain ⟨hv, name, rest, rfl, hf, ht⟩ := hs
      exact command_invalidDword path n hv hf (Datum.read_eq_error_iff.mpr
        ⟨_, ht, Datum.readDword_eq_invalidDword_iff.mpr hw⟩)

theorem command_eq_numeralTooLong_iff : command key n line = .error .numeralTooLong ↔
    TooLong (key ≠ none) line := by
  constructor
  · intro h
    have ho := outcome_command key n line
    rw [h] at ho
    cases ho with
    | tooLong hl => exact hl
  · rintro ⟨hi, w, ⟨hv, name, rest, rfl, hf, ht⟩, hw⟩
    obtain ⟨path, rfl⟩ := Option.ne_none_iff_exists'.mp hi
    exact command_numeralTooLong path n hv hf (Datum.read_eq_error_iff.mpr
      ⟨w, ht, Datum.readDword_eq_numeralTooLong_iff.mpr hw⟩)

end

/-! ## The key after a line -/

/-- The path that a line opens. -/
def opened? (line : Text) : Option Text :=
  if IsHeader line ∧ line.getLast? = some (Point.ofChar ']') then
    Hive.drivePath? line.tail.dropLast
  else none

theorem opened?_headerLine (content : Text) :
    opened? (headerLine content) = Hive.drivePath? content := by
  rw [opened?, if_pos ⟨isHeader_headerLine content, getLast?_headerLine content⟩,
    content_headerLine]

theorem opened?_of_not_isHeader {line : Text} (h : ¬ IsHeader line) : opened? line = none := by
  rw [opened?, if_neg fun hh => h hh.1]

theorem opened?_eq_some_iff {line path : Text} : opened? line = some path ↔
    ∃ content, line = headerLine content ∧ Hive.drivePath? content = some path := by
  constructor
  · intro h
    rw [opened?] at h
    split_ifs at h with hh
    obtain ⟨content, rfl⟩ := exists_eq_headerLine hh.1 hh.2
    exact ⟨content, rfl, by rwa [content_headerLine] at h⟩
  · rintro ⟨content, rfl, h⟩
    rw [opened?_headerLine, h]

theorem opened?_ne_none_iff {line : Text} : opened? line ≠ none ↔ Opens line := by
  rw [Option.ne_none_iff_exists']
  constructor
  · rintro ⟨path, h⟩
    obtain ⟨content, rfl, hd⟩ := opened?_eq_some_iff.mp h
    obtain ⟨hive, suffix, rfl, -⟩ := Hive.drivePath?_eq_some_iff.mp hd
    exact ⟨hive, suffix, rfl⟩
  · rintro ⟨hive, suffix, rfl⟩
    exact ⟨_, by rw [opened?_headerLine, Hive.drivePath?_name_append]⟩

/-- **An accepted line leaves the key open that it opens, or else the one that was open.** -/
theorem Becomes.key_eq {key : Option Text} {line : Text} {c : Command} (h : Becomes key line c) :
    some c.key = (opened? line).or key := by
  cases h with
  | header hd => rw [opened?_headerLine, hd]; rfl
  | value hk hv _ _ => rw [opened?_of_not_isHeader hv, hk]; rfl

end HiveScript.Conversion
