import HiveScript.Proofs.Conversion.Run
import HiveScript.Proofs.Registry.Reading
import HiveScript.Proofs.Text.Decimal
import HiveScript.Proofs.Text.Delimiters

/-!
# What a command tells about its value

Paths, names and data are written into a command as they are. The command tells them apart when
each delimiter first stands where it was written, and only then.

* `Legible`: the values of which that is so. Quotes may stand in them all the same.
* `literal_inj`, `type_and_literal_inj`: data and their types.
* **`setItemProperty_inj`**: a command of a legible value has no other one.
* `setItemProperty_unambiguous`: the same for the values of texts.
* `setItemProperty_ambiguous`: without legibility one command may set two values.
-/

namespace HiveScript

/-! ## Delimiters of commands -/

namespace Script

/-- What stands between the path and the name. -/
def pathEnd : Text := "' -Name '"

/-- What stands between the name and the literal. -/
def nameEnd : Text := "' -Value "

/-- What stands between the items of an array. -/
def itemEnd : Text := "\",\""

def typeStart : Text := " -Type"

theorem setItemProperty_eq (path name literal : Text) (type : PropertyType) :
    setItemProperty path name literal type =
      Text.ofString "Set-ItemProperty -Path '" ++ (path ++ pathEnd ++
        (name ++ nameEnd ++ (literal ++ typeStart ++ Point.space :: type.name))) := by
  have hstart : Text.ofString "Set-ItemProperty -Path '" =
      Text.ofString "Set-ItemProperty -Path " ++ [Point.apostrophe] := rfl
  have hpath : pathEnd = [Point.apostrophe] ++ Text.ofString " -Name " ++ [Point.apostrophe] := rfl
  have hname : nameEnd = [Point.apostrophe] ++ Text.ofString " -Value " := rfl
  have htype : Text.ofString " -Type " = typeStart ++ [Point.space] := rfl
  rw [setItemProperty, singleQuoted, singleQuoted, hstart, hpath, hname, htype]
  simp only [List.append_assoc, List.cons_append, List.nil_append]

end Script

open Script Text

/-! ## Data -/

theorem PropertyType.name_injective : Function.Injective PropertyType.name := by
  intro t t' h
  cases t <;> cases t' <;> first | rfl | exact absurd h (by decide)

theorem PropertyType.space_not_mem_name (t : PropertyType) : Point.space ∉ t.name := by
  cases t <;> decide

theorem singleQuoted_injective : Function.Injective singleQuoted := by
  intro s t h
  simpa [singleQuoted] using h

theorem doubleQuoted_injective : Function.Injective doubleQuoted := by
  intro s t h
  simpa [doubleQuoted] using h

/-- Items that an array tells apart. -/
def LegibleItems (ws : List Text) : Prop := ∀ w ∈ ws, FirstAfter itemEnd w

theorem stringArray_inj {ws vs : List Text} (hws : LegibleItems ws) (hvs : LegibleItems vs)
    (hwe : ∀ w ∈ ws, w ≠ []) (hve : ∀ v ∈ vs, v ≠ []) (h : stringArray ws = stringArray vs) :
    ws = vs := by
  refine join_inj_of_firstAfter (fun w hw => ⟨hwe w hw, hws w hw⟩)
    (fun v hv => ⟨hve v hv, hvs v hv⟩) ?_
  simpa [stringArray, itemEnd] using h

namespace Datum

/-- If the datum is an array, then of legible items. -/
def Legible (d : Datum) : Prop := ∀ ws, d = .multiString ws → LegibleItems ws

/-- If the datum is an array, then of items that are not empty. -/
def Filled (d : Datum) : Prop := ∀ ws, d = .multiString ws → ∀ w ∈ ws, w ≠ []

theorem filled_of_read {s : Text} {d : Datum} (h : read s = .ok d) : d.Filled := by
  rintro ws rfl
  exact nonempty_of_read h

theorem literal_inj {d d' : Datum} (hd : d.Legible) (hd' : d'.Legible) (hf : d.Filled)
    (hf' : d'.Filled) (ht : d.type = d'.type) (hl : d.literal = d'.literal) : d = d' := by
  cases d <;> cases d' <;> try cases ht
  case string.string => rw [singleQuoted_injective hl]
  case expandString.expandString => rw [doubleQuoted_injective hl]
  case multiString.multiString =>
    rw [stringArray_inj (hd _ rfl) (hd' _ rfl) (hf _ rfl) (hf' _ rfl) hl]
  case dword.dword => rw [Numeral.decimal_injective hl]
  case binary.binary => rw [doubleQuoted_injective hl]

/-- The type stands after the last space, so the literal is what stands before it. -/
theorem type_and_literal_inj {d d' : Datum} (hd : d.Legible) (hd' : d'.Legible) (hf : d.Filled)
    (hf' : d'.Filled) (h : d.literal ++ typeStart ++ Point.space :: d.type.name =
      d'.literal ++ typeStart ++ Point.space :: d'.type.name) : d = d' := by
  obtain ⟨hl, ht⟩ := append_cons_inj_of_not_mem d.type.space_not_mem_name
    d'.type.space_not_mem_name h
  exact literal_inj hd hd' hf hf' (PropertyType.name_injective ht) (List.append_cancel_right hl)

end Datum

/-! ## Commands -/

/-- The delimiters of a command first stand where they were written. -/
structure Legible (path name : Text) (datum : Datum) : Prop where
  path : FirstAfter pathEnd path
  name : FirstAfter nameEnd name
  datum : datum.Legible

/-- **A command of a legible value is the command of no other legible value.** -/
theorem setItemProperty_inj {path path' name name' : Text} {datum datum' : Datum}
    (h : Legible path name datum) (h' : Legible path' name' datum') (hf : datum.Filled)
    (hf' : datum'.Filled) (he : setItemProperty path name datum.literal datum.type =
      setItemProperty path' name' datum'.literal datum'.type) :
    path = path' ∧ name = name' ∧ datum = datum' := by
  rw [setItemProperty_eq, setItemProperty_eq] at he
  obtain ⟨rfl, hrest⟩ := append_inj_of_firstAfter h.path h'.path (List.append_cancel_left he)
  obtain ⟨rfl, hvalue⟩ := append_inj_of_firstAfter h.name h'.name hrest
  exact ⟨rfl, rfl, Datum.type_and_literal_inj h.datum h'.datum hf hf' hvalue⟩

/-! ## Values of texts -/

namespace Conversion

/-- Each command of a run is what a line of it becomes. -/
theorem exists_becomes_of_mem {key : Option Text} {ls : List (Nat × Text)} {n : Nat} {c : Command}
    (h : (n, c) ∈ (runFrom key ls).1) : ∃ key' line, (n, line) ∈ ls ∧ Becomes key' line c := by
  induction ls generalizing key with
  | nil => cases h
  | cons l ls ih =>
    obtain ⟨m, line⟩ := l
    cases hc : command key m line with
    | error r =>
      rw [runFrom_cons_of_error hc] at h
      cases h
    | ok c' =>
      rw [runFrom_cons_of_ok hc] at h
      rcases List.mem_cons.mp h with he | h
      · obtain ⟨rfl, rfl⟩ := Prod.mk.inj he
        exact ⟨key, line, List.mem_cons_self, command_eq_ok_iff.mp hc⟩
      · obtain ⟨key', line', hl, hb⟩ := ih h
        exact ⟨key', line', List.mem_cons_of_mem _ hl, hb⟩

/-- Line `n` of a text is accepted as a value. -/
def SetsAt (s : Text) (n : Nat) (path name : Text) (datum : Datum) : Prop :=
  (n, Command.setValue path name datum) ∈ (run s).1

instance (s : Text) (n : Nat) (path name : Text) (datum : Datum) :
    Decidable (SetsAt s n path name datum) :=
  inferInstanceAs (Decidable ((n, Command.setValue path name datum) ∈ (run s).1))

theorem SetsAt.filled {s : Text} {n : Nat} {path name : Text} {datum : Datum}
    (h : SetsAt s n path name datum) : datum.Filled := by
  rw [SetsAt, run] at h
  split_ifs at h
  · cases h
  · obtain ⟨key, line, -, hb⟩ := exists_becomes_of_mem h
    cases hb with
    | value _ _ _ hr => exact Datum.filled_of_read hr

/-- **Values of texts, legible ones, that are set by one command have the same path, name, type and
datum; and legible items that are written as one array are the same.** -/
theorem setItemProperty_unambiguous :
    (∀ (s s' : Text) (n n' : Nat) (path path' name name' : Text) (datum datum' : Datum),
      SetsAt s n path name datum → SetsAt s' n' path' name' datum' →
      Legible path name datum → Legible path' name' datum' →
      setItemProperty path name datum.literal datum.type =
        setItemProperty path' name' datum'.literal datum'.type →
      path = path' ∧ name = name' ∧ datum.type = datum'.type ∧ datum = datum') ∧
    ∀ ws vs : List Text, (∀ w ∈ ws, w ≠ []) → (∀ v ∈ vs, v ≠ []) →
      LegibleItems ws → LegibleItems vs → stringArray ws = stringArray vs → ws = vs := by
  refine ⟨?_, fun ws vs hwe hve hws hvs h => stringArray_inj hws hvs hwe hve h⟩
  intro s s' n n' path path' name name' datum datum' hs hs' h h' he
  obtain ⟨rfl, rfl, rfl⟩ := setItemProperty_inj h h' hs.filled hs'.filled he
  exact ⟨rfl, rfl, rfl, rfl⟩

/-- Quotes in a path, in a name and in a string. -/
def quotes : Text := "[HKEY_USERS\\it's]\n\"a' -\"b\"=\"c' -Value 'd\""

/-- The same value, written without the quotes that may be left out, after another one. -/
def fewerQuotes : Text := "[HKEY_USERS\\it's]\nx=1\na' -\"b=c' -Value 'd"

theorem setItemProperty_unambiguous_quotes :
    SetsAt quotes 2 "HKU:\\it's" "a' -\"b" (.string "c' -Value 'd") ∧
    SetsAt fewerQuotes 3 "HKU:\\it's" "a' -\"b" (.string "c' -Value 'd") ∧
    Legible "HKU:\\it's" "a' -\"b" (.string "c' -Value 'd") ∧
    LegibleItems ["a\"", ",\"b"] ∧
    Datum.string "c' -Value 'd" = Datum.string "c' -Value 'd" ∧
    [Text.ofString "a\"", Text.ofString ",\"b"] = ["a\"", ",\"b"] := by
  have hs : SetsAt quotes 2 "HKU:\\it's" "a' -\"b" (.string "c' -Value 'd") := by
    decide +kernel
  have hs' : SetsAt fewerQuotes 3 "HKU:\\it's" "a' -\"b" (.string "c' -Value 'd") := by
    decide +kernel
  have hl : Legible "HKU:\\it's" "a' -\"b" (.string "c' -Value 'd") :=
    ⟨by decide +kernel, by decide +kernel, fun ws h => by cases h⟩
  have hw : ∀ w ∈ [Text.ofString "a\"", Text.ofString ",\"b"], w ≠ [] ∧ FirstAfter itemEnd w := by
    intro w hw
    rcases List.mem_pair.mp hw with rfl | rfl <;> exact ⟨by decide, by decide +kernel⟩
  exact ⟨hs, hs', hl, fun w h => (hw w h).2,
    (setItemProperty_unambiguous.1 _ _ _ _ _ _ _ _ _ _ hs hs' hl hl rfl).2.2.2,
    setItemProperty_unambiguous.2 _ _ (fun w h => (hw w h).1) (fun w h => (hw w h).1)
      (fun w h => (hw w h).2) (fun w h => (hw w h).2) rfl⟩

/-- A name with a delimiter in it. -/
def delimiterInName : Text := "[HKEY_USERS\\a]\nb' -Name 'c=d"

/-- A path with the same delimiter in it. -/
def delimiterInPath : Text := "[HKEY_USERS\\a' -Name 'b]\nc=d"

/-- One command for two values, and one array for two lists of items. -/
theorem setItemProperty_ambiguous :
    SetsAt delimiterInName 2 "HKU:\\a" "b' -Name 'c" (.string "d") ∧
    SetsAt delimiterInPath 2 "HKU:\\a' -Name 'b" "c" (.string "d") ∧
    setItemProperty "HKU:\\a" "b' -Name 'c" (singleQuoted "d") .string =
      setItemProperty "HKU:\\a' -Name 'b" "c" (singleQuoted "d") .string ∧
    Text.ofString "HKU:\\a" ≠ "HKU:\\a' -Name 'b" ∧
    stringArray ["a\",\"b"] = stringArray ["a", "b"] ∧
    [Text.ofString "a\",\"b"] ≠ ["a", "b"] := by
  decide +kernel

end Conversion

end HiveScript
