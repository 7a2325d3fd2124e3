import HiveScript.Proofs.Conversion.Run
import Mathlib.Data.List.Forall2

/-!
# Commands and their sections

The key under which a value is set is carried from line to line. Seen from the whole text it is the
key of the last header before the value.

* `NearestHeader`: the last header before a line.
* `Renders`: the command that a line becomes, said about its place in the text.
* `LastOpened`, **`lastOpened_of_becomes`**: what the key that is open tells about the lines before.
* `forall₂_renders_of_yields`: the same along a run.
* `convert_renders_lines`: a script has one command for each significant line, in order.
-/

namespace HiveScript.Conversion

/-! ## Commands by place -/

/-- Line `m` is the last of the headers before line `n`. -/
structure NearestHeader (ls : List (Nat × Text)) (n m : Nat) (header : Text) : Prop where
  mem : (m, header) ∈ ls
  isHeader : IsHeader header
  before : m < n
  last : ∀ l ∈ ls, IsHeader l.2 → l.1 < n → l.1 ≤ m

/-- The command of a line among the significant lines of a text. -/
inductive Renders (ls : List (Nat × Text)) : Nat × Text → Text → Prop
  | key {n : Nat} {content path : Text} (known : Hive.drivePath? content = some path) :
      Renders ls (n, headerLine content) (Script.newItem path)
  | value {n m : Nat} {name rest content path : Text} {datum : Datum}
      (value : ¬ IsHeader (name ++ Point.ofChar '=' :: rest)) (first : Point.ofChar '=' ∉ name)
      (nearest : NearestHeader ls n m (headerLine content))
      (known : Hive.drivePath? content = some path) (read : Datum.read rest.trim = .ok datum) :
      Renders ls (n, name ++ Point.ofChar '=' :: rest)
        (Script.setItemProperty path (Datum.unquote name) datum.literal datum.type)

/-! ## The last header -/

/-- The last header among some lines is the one of `path`. -/
def LastOpened (pre : List (Nat × Text)) (path : Text) : Prop :=
  ∃ m content, (m, headerLine content) ∈ pre ∧ Hive.drivePath? content = some path ∧
    ∀ l ∈ pre, IsHeader l.2 → l.1 ≤ m

section

variable {ls pre post : List (Nat × Text)} {n : Nat} {line path : Text} {key : Option Text}

/-- **An accepted line keeps the open key that of the last header.** -/
theorem lastOpened_of_becomes (hn : ∀ l ∈ pre, l.1 < n)
    (hk : ∀ path, key = some path → LastOpened pre path) {c : Command} (h : Becomes key line c) :
    LastOpened (pre ++ [(n, line)]) c.key := by
  cases h with
  | @header content path hd =>
    refine ⟨n, content, List.mem_append_right _ (List.mem_singleton_self _), hd, fun l hl _ => ?_⟩
    rcases List.mem_append.mp hl with hl | hl
    · exact Nat.le_of_lt (hn l hl)
    · rw [List.mem_singleton.mp hl]
  | value hkey hv _ _ =>
    obtain ⟨m, content, hm, hd, hlast⟩ := hk _ hkey
    refine ⟨m, content, List.mem_append_left _ hm, hd, fun l hl hh => ?_⟩
    rcases List.mem_append.mp hl with hl | hl
    · exact hlast l hl hh
    · rw [List.mem_singleton.mp hl] at hh
      exact absurd hh hv

theorem exists_nearestHeader (hn : Numbered (pre ++ (n, line) :: post)) (h : LastOpened pre path) :
    ∃ m content, NearestHeader (pre ++ (n, line) :: post) n m (headerLine content) ∧
      Hive.drivePath? content = some path := by
  obtain ⟨m, content, hm, hd, hlast⟩ := h
  obtain ⟨hmem, hlt⟩ := (mem_iff_mem_and_lt hn).mp hm
  exact ⟨m, content, ⟨hmem, isHeader_headerLine content, hlt,
    fun l hl hh hln => hlast l ((mem_iff_mem_and_lt hn).mpr ⟨hl, hln⟩) hh⟩, hd⟩

theorem renders_of_becomes (hn : Numbered (pre ++ (n, line) :: post))
    (hk : ∀ path, key = some path → LastOpened pre path) {c : Command} (h : Becomes key line c) :
    Renders (pre ++ (n, line) :: post) (n, line) c.text := by
  cases h with
  | header hd => exact .key hd
  | value hkey hv hf hr =>
    obtain ⟨m, content, hnear, hd⟩ := exists_nearestHeader hn (hk _ hkey)
    exact .value hv hf hnear hd hr

/-- A run renders the lines that are left as their places in the whole text ask. -/
theorem forall₂_renders_of_yields {cs : List Command} (hn : Numbered (pre ++ post))
    (hk : ∀ path, key = some path → LastOpened pre path)
    (h : Yields key (post.map Prod.snd) cs) :
    List.Forall₂ (Renders (pre ++ post)) post (cs.map Command.text) := by
  -- The lines that are read move over to `pre`, so the whole list stays what it is.
  induction post generalizing pre key cs with
  | nil =>
    cases h
    exact .nil
  | cons l post ih =>
    obtain ⟨n, line⟩ := l
    cases h with
    | @cons _ _ c _ cs hb ht =>
      have hpre : ∀ l ∈ pre, l.1 < n := fun l hl => ((mem_iff_mem_and_lt hn).mp hl).2
      have hnext : ∀ path, some c.key = some path → LastOpened (pre ++ [(n, line)]) path := by
        intro path hp
        rw [← Option.some.inj hp]
        exact lastOpened_of_becomes hpre hk hb
      have hsplit : pre ++ (n, line) :: post = (pre ++ [(n, line)]) ++ post := by simp
      refine .cons (renders_of_becomes hn hk hb) ?_
      rw [hsplit] at hn ⊢
      exact ih hn hnext ht

end

/-! ## Scripts -/

theorem scriptOf_eq (cs : List Command) :
    scriptOf cs = (cs.map Command.text).flatMap (· ++ [Point.lineFeed]) := by
  rw [List.flatMap_map]
  rfl

/-- **A script has one command for each significant line, in order and in the section of the last
header before it.** -/
theorem convert_renders_lines {s script : Text} (h : convert s = .ok script) :
    ∃ commands : List Text, script = commands.flatMap (· ++ [Point.lineFeed]) ∧
      List.Forall₂ (Renders (significantLines s)) (significantLines s) commands := by
  obtain ⟨-, cs, hy, rfl⟩ := convert_eq_ok_iff.mp h
  have hn : Numbered ([] ++ significantLines s) := numbered_significantLines s
  have hk : ∀ path, none = some path → LastOpened [] path := fun path hp => by cases hp
  exact ⟨cs.map Command.text, scriptOf_eq cs, forall₂_renders_of_yields hn hk hy⟩

/-- Two sections with a value each. -/
def twoSections : Text := "[HKEY_USERS\\A]\n\n x=\"1\"\r\n[HKEY_USERS]\ny=hex:0a,1b"

def twoSectionsScript : Text :=
  "New-Item -Path 'HKU:\\A' -Force\n" ++
    Text.ofString "Set-ItemProperty -Path 'HKU:\\A' -Name 'x' -Value '1' -Type String\n" ++
    Text.ofString "New-Item -Path 'HKU:' -Force\n" ++
    Text.ofString "Set-ItemProperty -Path 'HKU:' -Name 'y' -Value \"0a1b\" -Type Binary\n"

theorem convert_renders_lines_twoSections : convert twoSections = .ok twoSectionsScript ∧
    ∃ commands : List Text, twoSectionsScript = commands.flatMap (· ++ [Point.lineFeed]) ∧
      List.Forall₂ (Renders (significantLines twoSections)) (significantLines twoSections)
        commands := by
  have ho : (convert twoSections).toOption = some twoSectionsScript := by decide +kernel
  have h : convert twoSections = .ok twoSectionsScript := by
    cases hc : convert twoSections with
    | ok script =>
      rw [hc] at ho
      rw [Option.some.inj ho]
    | error r =>
      rw [hc] at ho
      cases ho
  exact ⟨h, convert_renders_lines h⟩

end HiveScript.Conversion
