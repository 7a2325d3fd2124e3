import HiveScript.Proofs.Conversion.Layout
import HiveScript.Proofs.Script.Unambiguous

/-!
# Headers of sections

A header is accepted for the hive whose name its path begins with, and its command tells the whole
path.

* **`convert_eq_rejected_iff_least`**, `badAt_unknownHive_iff`: which texts are rejected, and which
  lines for their hive.
* `headers_by_hive`: the paths that are on a drive, and the texts whose headers are not.
* `lookalike`, `headers_lookalike`: a component that is longer than the name of its hive.
* `exists_createKey_of_command`, `newItem_injective`: the command of a header.
* `headers_lossless`: no path and no header is lost.
-/

namespace HiveScript.Conversion

/-! ## Hives -/

/-- **A text is rejected for the first line that stops**, whatever is bad about it. -/
theorem convert_eq_rejected_iff_least {s : Text} {n : Nat} {reason : Reason} :
    convert s = .error (.rejected ⟨reason, some n⟩) ↔
      BadAt (significantLines s) n reason ∧ ∀ m < n, ∀ r, ¬ Stops (significantLines s) m r := by
  by_cases hs : s.isBlank = true
  · rw [convert_of_isBlank hs, significantLines_of_isBlank hs]
    refine iff_of_false (fun h => by cases h) ?_
    rintro ⟨⟨line, hmem, -⟩, -⟩
    cases hmem
  · rw [convert_eq_error_iff_least hs]
    constructor
    · rintro ⟨m, hstop, hmin⟩
      obtain ⟨reason', hb, he⟩ := stops_rejected_iff.mp hstop
      obtain ⟨rfl, rfl⟩ : reason = reason' ∧ n = m := by simpa using he
      exact ⟨hb, hmin⟩
    · rintro ⟨hb, hmin⟩
      exact ⟨n, .rejected hb, hmin⟩

theorem badAt_unknownHive_iff {ls : List (Nat × Text)} {n : Nat} :
    BadAt ls n .unknownHive ↔ ∃ content, (n, headerLine content) ∈ ls ∧
      ∀ h : Hive, ¬ h.name <+: Hive.firstComponent content := by
  simp only [Hive.name_prefix_firstComponent_iff]
  constructor
  · rintro ⟨line, hl, hb⟩
    cases hb with
    | @unknownHive content header unknown => exact ⟨content, header ▸ hl, unknown⟩
  · rintro ⟨content, hl, unknown⟩
    exact ⟨headerLine content, hl, .unknownHive rfl unknown⟩

/-- A path is on a drive for the name at the beginning of its first component. -/
theorem drivePath?_eq_some_iff_firstComponent {path drivePath : Text} :
    Hive.drivePath? path = some drivePath ↔
      ∃ h : Hive, h.name <+: Hive.firstComponent path ∧
        drivePath = h.drive ++ path.drop h.name.length := by
  rw [Hive.drivePath?_eq_some_iff]
  refine exists_congr fun h => ?_
  rw [Hive.name_prefix_firstComponent_iff]
  constructor
  · rintro ⟨suffix, rfl, rfl⟩
    exact ⟨List.prefix_append h.name suffix, by rw [List.drop_left]⟩
  · rintro ⟨⟨suffix, rfl⟩, rfl⟩
    exact ⟨suffix, rfl, by rw [List.drop_left]⟩

/-- **A path is on the drive of the hive whose name its first component begins with**, and what
follows the name stays. A text is refused for a hive because of its first line that stops, if that
is a header without such a hive. -/
theorem headers_by_hive :
    (∀ path drivePath : Text, Hive.drivePath? path = some drivePath ↔
      ∃ h : Hive, h.name <+: Hive.firstComponent path ∧
        drivePath = h.drive ++ path.drop h.name.length) ∧
    ∀ (s : Text) (n : Nat), convert s = .error (.rejected ⟨.unknownHive, some n⟩) ↔
      (∃ content, (n, headerLine content) ∈ significantLines s ∧
        ∀ h : Hive, ¬ h.name <+: Hive.firstComponent content) ∧
      ∀ m < n, ∀ r, ¬ Stops (significantLines s) m r := by
  refine ⟨fun path drivePath => drivePath?_eq_some_iff_firstComponent, fun s n => ?_⟩
  rw [convert_eq_rejected_iff_least, badAt_unknownHive_iff]

/-- A path whose first component is no name, but begins with one. -/
def lookalike : Text := "HKEY_USERSX\\A"

/-- Such a path is on a drive that does not exist. -/
theorem headers_lookalike :
    Hive.drivePath? lookalike = some (Text.ofString "HKU:X\\A") ∧
    (∀ h : Hive, Hive.firstComponent lookalike ≠ h.name) ∧
    convert (headerLine lookalike) = .ok "New-Item -Path 'HKU:X\\A' -Force\n" := by
  refine ⟨rfl, fun h => ?_, convert_eq_ok_of_toOption (by decide +kernel)⟩
  cases h <;> decide

/-! ## Commands of headers -/

theorem newItem_injective : Function.Injective Script.newItem := by
  intro path path' h
  simpa [Script.newItem, Script.singleQuoted] using h

section

variable {key : Option Text} {n : Nat} {content : Text} {c : Command}

theorem exists_createKey_of_command (h : command key n (headerLine content) = .ok c) :
    ∃ path, Hive.drivePath? content = some path ∧ c = .createKey path := by
  cases hd : Hive.drivePath? content with
  | none =>
    rw [command_unknownHive key n hd] at h
    cases h
  | some path =>
    rw [command_header key path n hd] at h
    exact ⟨path, rfl, (Except.ok.inj h).symm⟩

end

/-- **Paths are not lost on drives, in whatever order the hives are tried, and headers are not lost
in commands.** -/
theorem headers_lossless :
    (∀ path path' drivePath : Text, Hive.drivePath? path = some drivePath →
      Hive.drivePath? path' = some drivePath → path = path') ∧
    (∀ hives : List Hive, hives.Perm Hive.all → ∀ path,
      (Hive.matchIn? hives path).map (fun (h, rest) => h.drive ++ rest) =
        Hive.drivePath? path) ∧
    ∀ (key key' : Option Text) (n n' : Nat) (content content' : Text) (c c' : Command),
      command key n (headerLine content) = .ok c →
      command key' n' (headerLine content') = .ok c' → c.text = c'.text →
      content = content' := by
  refine ⟨fun path path' drivePath => Hive.drivePath?_inj, fun hives hp path => ?_, ?_⟩
  · rw [Hive.matchIn?_of_perm hp, Hive.drivePath?]
  · intro key key' n n' content content' c c' h h' he
    obtain ⟨path, hd, rfl⟩ := exists_createKey_of_command h
    obtain ⟨path', hd', rfl⟩ := exists_createKey_of_command h'
    obtain rfl : path = path' := newItem_injective he
    exact Hive.drivePath?_inj hd hd'

/-- A path with the name and the drive of its hive in it. -/
def nested : Text := "HKEY_USERS\\HKEY_USERS\\HKU:"

def nestedDrivePath : Text := "HKU:\\HKEY_USERS\\HKU:"

theorem headers_lossless_nested :
    Hive.drivePath? nested = some nestedDrivePath ∧ Hive.all.reverse.Perm Hive.all ∧
    (Hive.matchIn? Hive.all.reverse nested).map (fun (h, rest) => h.drive ++ rest) =
      Hive.drivePath? nested ∧
    command none 1 (headerLine nested) = .ok (.createKey nestedDrivePath) ∧
    command (some nestedDrivePath) 2 (headerLine nested) = .ok (.createKey nestedDrivePath) ∧
    nested = nested := by
  have hd : Hive.drivePath? nested = some nestedDrivePath := rfl
  have hp : Hive.all.reverse.Perm Hive.all := List.reverse_perm _
  have hc : command none 1 (headerLine nested) = .ok (.createKey nestedDrivePath) :=
    command_header none _ 1 hd
  have hc' : command (some nestedDrivePath) 2 (headerLine nested) =
      .ok (.createKey nestedDrivePath) := command_header _ _ 2 hd
  exact ⟨hd, hp, headers_lossless.2.1 _ hp nested, hc, hc',
    headers_lossless.2.2 _ _ _ _ _ _ _ _ hc hc' rfl⟩

end HiveScript.Conversion
