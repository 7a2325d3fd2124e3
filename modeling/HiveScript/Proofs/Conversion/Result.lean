import HiveScript.Conversion.Result
import HiveScript.Proofs.Conversion.Refusal

/-!
# Texts without a result

Every text has a result, the script or the fault, but for those in which a number that is too long
to be written comes before all bad lines.

* `convert_eq_numeralTooLong_iff`: which texts these are.
* `tryConvert_fails_iff`: nothing else fails, and a result is either a script or a fault.
* `overlong`, `tryConvert_overlong`: a text of two lines without a result.
-/

namespace HiveScript.Conversion

/-- The text is refused for a number when no bad line comes before one that is too long. -/
theorem convert_eq_numeralTooLong_iff {s : Text} : convert s = .error .numeralTooLong ↔
    (¬ ∀ p ∈ s, p.isBlank = true) ∧ ∃ n, TooLongAt (significantLines s) n ∧
      ∀ m < n, ∀ reason, ¬ BadAt (significantLines s) m reason := by
  rw [← isBlank_iff]
  by_cases hs : s.isBlank = true
  · rw [convert_of_isBlank hs]
    exact iff_of_false (fun h => by cases h) fun h => h.1 hs
  · rw [convert_eq_error_iff_least hs, and_iff_right hs]
    simp only [stops_numeralTooLong_iff, forall_not_stops_iff]
    constructor
    · rintro ⟨n, ht, hmin⟩
      exact ⟨n, ht, fun m hm => (hmin m hm).1⟩
    · rintro ⟨n, ht, hmin⟩
      -- Of the numbers that are too long the first one counts.
      classical
      have hex : ∃ m, TooLongAt (significantLines s) m := ⟨n, ht⟩
      refine ⟨Nat.find hex, Nat.find_spec hex, fun m hm => ⟨?_, Nat.find_min hex hm⟩⟩
      exact hmin m (Nat.lt_of_lt_of_le hm (Nat.find_min' hex ht))

/-- **Only a number that is too long leaves a text without a result, and a result is either a script
or a fault.** -/
theorem tryConvert_fails_iff (s : Text) :
    (∀ f, tryConvert s = .error f ↔ f = .numeralNotWritten ∧ (¬ ∀ p ∈ s, p.isBlank = true) ∧
      ∃ n, TooLongAt (significantLines s) n ∧
        ∀ m < n, ∀ reason, ¬ BadAt (significantLines s) m reason) ∧
    (∀ r, tryConvert s = .ok r ↔ (∃ script, convert s = .ok script ∧ r = ⟨some script, none⟩) ∨
      ∃ rejection, convert s = .error (.rejected rejection) ∧
        r = ⟨none, some (.ofRejection rejection)⟩) := by
  simp only [← convert_eq_numeralTooLong_iff, tryConvert]
  cases convert s with
  | ok script => simp [eq_comm]
  | error r =>
    cases r with
    | rejected rejection => simp [eq_comm]
    | numeralTooLong => simp [eq_comm]

/-! ## A number that is too long -/

/-- Four thousand hexadecimal digits. -/
def overlongNumeral : Text := List.replicate 4000 (Point.ofChar 'f')

def overlongHeader : Text := headerLine "HKEY_USERS"

def overlongValue : Text := "n=dword:" ++ overlongNumeral

/-- A section with one value. -/
def overlong : Text := Text.unlines (fun _ => .lineFeed) [overlongHeader, overlongValue]

theorem isHexNumeral_overlongNumeral : Numeral.IsHexNumeral overlongNumeral :=
  Numeral.isHexNumeral_replicate (by decide)

theorem solid_of_mem_append_overlongNumeral {lead : Text} (h : ∀ p ∈ lead, Solid p) :
    ∀ p ∈ lead ++ overlongNumeral, Solid p := by
  intro p hp
  rcases List.mem_append.mp hp with hp | hp
  · exact h p hp
  · exact solid_of_isHexDigit (isHexNumeral_overlongNumeral.2 p hp)

theorem tooLong_overlongValue (path : Text) : TooLong (some path ≠ none) overlongValue := by
  have hs : ∀ p ∈ Datum.dwordTag ++ overlongNumeral, Solid p :=
    solid_of_mem_append_overlongNumeral (forall_solid_of_all (by decide))
  have ht : Text.trim (Datum.dwordTag ++ overlongNumeral) = Datum.dwordTag ++ overlongNumeral :=
    trim_of_isTrimmed (isTrimmed_of_forall hs)
  exact ⟨Option.some_ne_none path, overlongNumeral,
    ⟨by decide, "n", Datum.dwordTag ++ overlongNumeral, rfl, by decide, ht⟩,
    isHexNumeral_overlongNumeral, Datum.limit_le_hexValue_replicate (by decide)⟩

theorem map_snd_significantLines_overlong :
    (significantLines overlong).map Prod.snd = [overlongHeader, overlongValue] := by
  have hh : ∀ p ∈ overlongHeader, Solid p := forall_solid_of_all (by decide)
  have hv : ∀ p ∈ overlongValue, Solid p :=
    solid_of_mem_append_overlongNumeral (forall_solid_of_all (by decide))
  rw [overlong, significantLines_unlines]
  · rfl
  · intro l hl
    rcases List.mem_pair.mp hl with rfl | rfl
    · exact ⟨not_mem_of_forall_solid hh, isTrimmed_of_forall hh⟩
    · exact ⟨not_mem_of_forall_solid hv, isTrimmed_of_forall hv⟩

theorem tryConvert_overlong : tryConvert overlong = .error .numeralNotWritten := by
  have hs : ¬ overlong.isBlank = true := fun h =>
    absurd (isBlank_iff.mp h (Point.ofChar '[') (List.mem_of_mem_head? rfl)) (by decide)
  have hd : Hive.drivePath? "HKEY_USERS" = some Hive.users.drive :=
    Hive.drivePath?_name_append .users []
  have ho : opened? overlongHeader = some Hive.users.drive := (opened?_headerLine _).trans hd
  have hc : convert overlong = .error .numeralTooLong := by
    obtain ⟨⟨n, header⟩, rest, he, rfl, hr⟩ :=
      List.map_eq_cons_iff.mp map_snd_significantLines_overlong
    obtain ⟨⟨m, value⟩, rest', rfl, rfl, -⟩ := List.map_eq_cons_iff.mp hr
    have hheader : command none n overlongHeader = .ok (.createKey Hive.users.drive) :=
      command_header none _ n hd
    have hvalue : command (some Hive.users.drive) m overlongValue = .error .numeralTooLong :=
      command_eq_numeralTooLong_iff.mpr (tooLong_overlongValue _)
    rw [convert_eq_error_iff, run_of_not_isBlank hs, he, runFrom_cons_of_ok hheader, ho,
      Option.some_or, runFrom_cons_of_error hvalue]
  rw [tryConvert, hc]

end HiveScript.Conversion
