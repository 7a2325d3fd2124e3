import HiveScript.Proofs.Conversion.Binding
import HiveScript.Proofs.Registry.Reading
import HiveScript.Proofs.Text.Decimal

/-!
# Commands that set numbers

A number is written in decimal as it stands in its line, however large it is.

* `numberEnd`: the end of the commands that set numbers, and of no other ones.
* `WritesNumber`, **`writesNumber_of_becomes`**: the command of one line.
* `Yields.forall₂`: what holds of each line and its command holds along a run.
* `numbers_of_convert`: the numbers of a script.
* `wide`, `numbers_wide`: a number of more than thirty-two bits.
-/

namespace HiveScript

/-! ## Ends of commands -/

namespace Script

/-- The end of a command that sets a number. -/
def numberEnd : Text := " -Type DWord"

theorem not_numberEnd_suffix_newItem (path : Text) : ¬ numberEnd <:+ newItem path := by
  rintro ⟨t, ht⟩
  have hlast := congrArg List.getLast? ht
  rw [List.getLast?_append_of_ne_nil _ (by decide), newItem,
    List.getLast?_append_of_ne_nil _ (by decide)] at hlast
  exact absurd hlast (by decide)

/-- The names of the types end in different points, so far as numbers are concerned. -/
theorem type_eq_of_numberEnd_suffix {path name literal : Text} {type : PropertyType}
    (h : numberEnd <:+ setItemProperty path name literal type) : type = .dword := by
  obtain ⟨t, ht⟩ := h
  have hlast := congrArg List.getLast? ht
  have hne : type.name ≠ [] := by cases type <;> decide
  rw [List.getLast?_append_of_ne_nil _ (by decide), setItemProperty,
    List.getLast?_append_of_ne_nil _ hne] at hlast
  cases type with
  | dword => rfl
  | string | expandString | multiString | binary => exact absurd hlast (by decide)

end Script

namespace Conversion

open Numeral

/-! ## Lines -/

/-- If a command sets a number, then the one that stands on its line, in decimal. Numbers of up to
thirty-two bits have up to eight digits behind their zeros. -/
def WritesNumber (line command : Text) : Prop :=
  Script.numberEnd <:+ command → ∃ path name numeral w : Text,
    command = Script.setItemProperty path name numeral .dword ∧
    SetsNumber line w ∧ IsHexNumeral w ∧ IsDecimalOf numeral (hexValue w) ∧
    (hexValue w < 2 ^ 32 ↔ (dropZeros w).length ≤ 8)

/-- **A command that sets a number has the number of its line.** -/
theorem writesNumber_of_becomes {key : Option Text} {line : Text} {c : Command}
    (h : Becomes key line c) : WritesNumber line c.text := by
  intro hend
  cases h with
  | @header content path _ => exact absurd hend (Script.not_numberEnd_suffix_newItem path)
  | @value path name rest datum _ hv hf hr =>
    have htype : datum.type = .dword := Script.type_eq_of_numberEnd_suffix hend
    obtain ⟨w, hw, hnumeral, rfl⟩ := Datum.exists_numeral_of_read hr htype
    have hsmall : hexValue w < 16 ^ 8 ↔ (dropZeros w).length ≤ 8 :=
      hexValue_lt_pow_iff hnumeral.2
    exact ⟨path, Datum.unquote name, decimal (hexValue w), w, rfl, ⟨hv, name, rest, rfl, hf, hw⟩,
      hnumeral, isDecimalOf_decimal _, hsmall⟩

/-! ## Scripts -/

theorem Yields.forall₂ {R : Text → Text → Prop}
    (hR : ∀ {key line c}, Becomes key line c → R line c.text) {key : Option Text}
    {lines : List Text} {cs : List Command} (h : Yields key lines cs) :
    List.Forall₂ R lines (cs.map Command.text) := by
  induction h with
  | nil => exact .nil
  | cons hb _ ih => exact .cons (hR hb) ih

/-- **A script has one command for each significant line, and where it sets a number, this is the
one of its line.** -/
theorem numbers_of_convert {s script : Text} (h : convert s = .ok script) :
    ∃ commands : List Text, script = commands.flatMap (· ++ [Point.lineFeed]) ∧
      List.Forall₂ WritesNumber ((significantLines s).map Prod.snd) commands := by
  obtain ⟨-, cs, hy, rfl⟩ := convert_eq_ok_iff.mp h
  exact ⟨cs.map Command.text, scriptOf_eq cs, hy.forall₂ writesNumber_of_becomes⟩

/-- The largest number of thirty-two bits, with zeros before it. -/
def largest : Text := "[HKEY_USERS]\nn=dword:00000000fFFFffff"

def largestScript : Text :=
  "New-Item -Path 'HKU:' -Force\n" ++
    Text.ofString "Set-ItemProperty -Path 'HKU:' -Name 'n' -Value 4294967295 -Type DWord\n"

theorem numbers_of_convert_largest : convert largest = .ok largestScript ∧
    ∃ commands : List Text, largestScript = commands.flatMap (· ++ [Point.lineFeed]) ∧
      List.Forall₂ WritesNumber ((significantLines largest).map Prod.snd) commands := by
  have h : convert largest = .ok largestScript := convert_eq_ok_of_toOption (by decide +kernel)
  exact ⟨h, numbers_of_convert h⟩

/-- The next number. -/
def wide : Text := "[HKEY_USERS]\nn=dword:100000000"

theorem numbers_wide :
    convert wide = .ok (Script.newItem "HKU:" ++ [Point.lineFeed] ++
      Script.setItemProperty "HKU:" "n" "4294967296" .dword ++ [Point.lineFeed]) ∧
    decimalValue "4294967296" = 2 ^ 32 ∧ ¬ decimalValue "4294967296" < 2 ^ 32 :=
  ⟨convert_eq_ok_of_toOption (by decide +kernel), by decide +kernel, by decide +kernel⟩

end Conversion

end HiveScript
