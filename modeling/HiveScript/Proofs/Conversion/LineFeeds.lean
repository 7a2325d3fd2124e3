import HiveScript.Proofs.Conversion.Run
import HiveScript.Proofs.Registry.Reading
import HiveScript.Proofs.Text.Decimal

/-!
# Line feeds of scripts

A line of a text holds no line feed, but the octets of a value may spell one, and it is written as
it is.

* `headersOf`, `valuesOf`: the significant lines of the two kinds.
* `spelledBy`: what the octets of a line part spell; `spelledIn`: what those of all values spell.
* `count_literal_of_reads`, `count_text_of_becomes`: a command has the line feeds that octets spell
  and no other ones.
* **`count_lineFeed_convert`**: a script has one line feed for each line and those that are spelled.
* `feeding`: a text of two lines whose script has three.
-/

namespace HiveScript

/-! ## Literals -/

namespace Datum

theorem count_singleQuoted (s : Text) :
    (Script.singleQuoted s).count Point.lineFeed = s.count Point.lineFeed := by
  have hq : [Point.apostrophe].count Point.lineFeed = 0 := rfl
  rw [Script.singleQuoted, List.count_append, List.count_append, hq, Nat.zero_add, Nat.add_zero]

theorem count_doubleQuoted (s : Text) :
    (Script.doubleQuoted s).count Point.lineFeed = s.count Point.lineFeed := by
  have hq : [Point.quotationMark].count Point.lineFeed = 0 := rfl
  rw [Script.doubleQuoted, List.count_append, List.count_append, hq, Nat.zero_add, Nat.add_zero]

theorem count_stringArray (ws : List Text) :
    (Script.stringArray ws).count Point.lineFeed = ws.flatten.count Point.lineFeed := by
  have ho : (Text.ofString "@(\"").count Point.lineFeed = 0 := rfl
  have hc : (Text.ofString "\")").count Point.lineFeed = 0 := rfl
  have hs : Point.lineFeed ∉ Text.ofString "\",\"" := by decide
  rw [Script.stringArray, List.count_append, List.count_append, Text.count_join hs, ho, hc,
    Nat.zero_add, Nat.add_zero]

theorem count_decimal (n : Nat) : (Numeral.decimal n).count Point.lineFeed = 0 :=
  List.count_eq_zero_of_not_mem fun h =>
    absurd (Numeral.isDigit_of_mem_decimal h) (by decide)

theorem flatten_filter_isEmpty (ws : List Text) :
    (ws.filter fun w => !w.isEmpty).flatten = ws.flatten := by
  induction ws with
  | nil => rfl
  | cons w ws ih => cases w <;> simp [ih]

/-- The items of a text are the text without its null points. -/
theorem flatten_items (t : Text) : (items t).flatten = t.filter (· ≠ Point.nul) := by
  rw [items, flatten_filter_isEmpty, Text.flatten_fields]
  simp

theorem count_filter_ne {p q : Point} (h : p ≠ q) (s : Text) :
    (s.filter (· ≠ q)).count p = s.count p := by
  rw [List.count_filter (by simpa using h)]

/-- The text that the octets of a line part spell; a part without octets spells none. -/
def spelledBy (s : Text) : Text :=
  match Text.after? multiStringTag s, Text.after? expandStringTag s with
  | some w, _ => Payload.text w
  | none, some w => Payload.text w
  | none, none => []

theorem spelledBy_of_untagged {s : Text} (hm : ¬ multiStringTag <+: s)
    (he : ¬ expandStringTag <+: s) : spelledBy s = [] := by
  rw [spelledBy, Text.after?_eq_none_iff.mpr hm, Text.after?_eq_none_iff.mpr he]

/-- **A literal has the line feeds that octets spell**, if its line part has none itself. -/
theorem count_literal_of_reads {s : Text} {d : Datum} (h : Reads s d) (hs : Point.lineFeed ∉ s) :
    d.literal.count Point.lineFeed = (spelledBy s).count Point.lineFeed := by
  have hnul : Point.lineFeed ≠ Point.nul := by decide
  cases h with
  | dword _ _ => rw [literal, count_decimal]; rfl
  | multiString w =>
    rw [literal, count_stringArray, flatten_items, count_filter_ne hnul, spelledBy,
      Text.after?_append]
  | expandString w =>
    have hm : Text.after? multiStringTag (expandStringTag ++ w) = none := rfl
    rw [literal, count_doubleQuoted, count_filter_ne hnul, spelledBy, hm, Text.after?_append]
  | binary w =>
    have hw : Point.lineFeed ∉ w := fun h => hs (List.mem_append_right _ h)
    rw [literal, count_doubleQuoted, count_filter_ne (by decide),
      List.count_eq_zero_of_not_mem hw]
    rfl
  | quoted t =>
    rw [literal, count_singleQuoted, ← count_doubleQuoted, List.count_eq_zero_of_not_mem hs]
    rfl
  | loneQuote => rfl
  | bare ht _ =>
    rw [literal, count_singleQuoted, List.count_eq_zero_of_not_mem hs,
      spelledBy_of_untagged (ht _ (by simp [tags])) (ht _ (by simp [tags]))]
    rfl

end Datum

/-! ## Commands -/

namespace Conversion

/-- The text that the octets of a value line spell. -/
def spelledOn (line : Text) : Text :=
  match Text.cut? (Point.ofChar '=') line with
  | some (_, rest) => Datum.spelledBy rest.trim
  | none => []

theorem spelledOn_append_cons {name : Text} (hf : Point.ofChar '=' ∉ name) (rest : Text) :
    spelledOn (name ++ Point.ofChar '=' :: rest) = Datum.spelledBy rest.trim := by
  rw [spelledOn, Text.cut?_append_cons hf]

theorem count_newItem (path : Text) :
    (Script.newItem path).count Point.lineFeed = path.count Point.lineFeed := by
  have ho : (Text.ofString "New-Item -Path ").count Point.lineFeed = 0 := rfl
  have hc : (Text.ofString " -Force").count Point.lineFeed = 0 := rfl
  rw [Script.newItem, List.count_append, List.count_append, Datum.count_singleQuoted, ho, hc,
    Nat.zero_add, Nat.add_zero]

theorem count_setItemProperty (path name literal : Text) (type : PropertyType) :
    (Script.setItemProperty path name literal type).count Point.lineFeed =
      path.count Point.lineFeed + name.count Point.lineFeed + literal.count Point.lineFeed := by
  have h₁ : (Text.ofString "Set-ItemProperty -Path ").count Point.lineFeed = 0 := rfl
  have h₂ : (Text.ofString " -Name ").count Point.lineFeed = 0 := rfl
  have h₃ : (Text.ofString " -Value ").count Point.lineFeed = 0 := rfl
  have h₄ : (Text.ofString " -Type ").count Point.lineFeed = 0 := rfl
  have h₅ : type.name.count Point.lineFeed = 0 := by cases type <;> rfl
  simp only [Script.setItemProperty, List.count_append, Datum.count_singleQuoted, h₁, h₂, h₃, h₄,
    h₅, Nat.zero_add, Nat.add_zero]

theorem lineFeed_not_mem_drivePath {content path : Text} (hd : Hive.drivePath? content = some path)
    (hc : Point.lineFeed ∉ content) : Point.lineFeed ∉ path := by
  obtain ⟨hive, suffix, rfl, rfl⟩ := Hive.drivePath?_eq_some_iff.mp hd
  have hdrive : Point.lineFeed ∉ hive.drive := by cases hive <;> decide
  rw [List.mem_append, not_or] at hc ⊢
  exact ⟨hdrive, hc.2⟩

theorem mem_of_mem_unquote {s : Text} {p : Point} (h : p ∈ Datum.unquote s) : p ∈ s := by
  have hclose : ∀ t : Text, p ∈ Datum.dropCloseQuote t → p ∈ t := by
    intro t ht
    rw [Datum.dropCloseQuote] at ht
    split_ifs at ht
    · exact List.dropLast_subset t ht
    · exact ht
  have hopen := hclose _ h
  rw [Datum.dropOpenQuote] at hopen
  cases ha : Text.after? [Point.quotationMark] s with
  | none => rwa [ha] at hopen
  | some rest =>
    rw [ha] at hopen
    rw [Text.after?_eq_some_iff.mp ha]
    exact List.mem_cons_of_mem _ hopen

section

variable {key : Option Text} {line : Text} {c : Command}

/-- A key that is open holds no line feed, if none was in the lines. -/
theorem lineFeed_not_mem_key (h : Becomes key line c) (hl : Point.lineFeed ∉ line)
    (hk : ∀ path, key = some path → Point.lineFeed ∉ path) : Point.lineFeed ∉ c.key := by
  cases h with
  | @header content _ hd =>
    refine lineFeed_not_mem_drivePath hd fun h => hl ?_
    exact List.mem_cons_of_mem _ (List.mem_append_left _ h)
  | value hkey _ _ _ => exact hk _ hkey

/-- **A command has the line feeds that the octets of its line spell.** -/
theorem count_text_of_becomes (h : Becomes key line c) (hl : Point.lineFeed ∉ line)
    (hk : ∀ path, key = some path → Point.lineFeed ∉ path) :
    c.text.count Point.lineFeed =
      if IsHeader line then 0 else (spelledOn line).count Point.lineFeed := by
  have hkey := List.count_eq_zero_of_not_mem (lineFeed_not_mem_key h hl hk)
  cases h with
  | header _ =>
    rw [if_pos (isHeader_headerLine _), Command.text, count_newItem]
    exact hkey
  | @value path name rest datum _ hv hf hr =>
    have hname : Point.lineFeed ∉ Datum.unquote name := fun h =>
      hl (List.mem_append_left _ (mem_of_mem_unquote h))
    have hrest : Point.lineFeed ∉ rest.trim := fun h =>
      hl (List.mem_append_right _ (List.mem_cons_of_mem _ (Text.mem_of_mem_trimBy h)))
    have hpath : path.count Point.lineFeed = 0 := hkey
    rw [if_neg hv, Command.text, count_setItemProperty, hpath,
      List.count_eq_zero_of_not_mem hname,
      Datum.count_literal_of_reads (Datum.read_eq_ok_iff.mp hr) hrest,
      spelledOn_append_cons hf]
    omega

end

/-! ## Scripts -/

/-- The headers among numbered lines. -/
def headersOf (ls : List (Nat × Text)) : List (Nat × Text) := ls.filter fun l => IsHeader l.2

/-- The lines among numbered lines that are no headers. -/
def valuesOf (ls : List (Nat × Text)) : List (Nat × Text) := ls.filter fun l => ¬ IsHeader l.2

/-- The texts that the octets of values spell, one after the other. -/
def spelledIn (ls : List (Nat × Text)) : Text := (valuesOf ls).flatMap fun l => spelledOn l.2

theorem length_headersOf_add_length_valuesOf (ls : List (Nat × Text)) :
    (headersOf ls).length + (valuesOf ls).length = ls.length := by
  rw [headersOf, valuesOf, ls.length_eq_length_filter_add fun l => decide (IsHeader l.2)]
  simp only [decide_not]

theorem count_spelledIn_cons (l : Nat × Text) (ls : List (Nat × Text)) :
    (spelledIn (l :: ls)).count Point.lineFeed =
      (if IsHeader l.2 then 0 else (spelledOn l.2).count Point.lineFeed) +
        (spelledIn ls).count Point.lineFeed := by
  rw [spelledIn, valuesOf]
  split_ifs with hh
  · rw [List.filter_cons_of_neg (by simpa using hh), Nat.zero_add]
    rfl
  · rw [List.filter_cons_of_pos (by simpa using hh), List.flatMap_cons, List.count_append]
    rfl

/-- The commands of lines without line feeds have those that are spelled, and one at each end. -/
theorem count_scriptOf_of_yields {key : Option Text} {ls : List (Nat × Text)} {cs : List Command}
    (h : Yields key (ls.map Prod.snd) cs) (hl : ∀ l ∈ ls, Point.lineFeed ∉ l.2)
    (hk : ∀ path, key = some path → Point.lineFeed ∉ path) :
    (scriptOf cs).count Point.lineFeed = ls.length + (spelledIn ls).count Point.lineFeed := by
  induction ls generalizing key cs with
  | nil =>
    cases h
    rfl
  | cons l ls ih =>
    cases h with
    | @cons _ _ c _ cs hb ht =>
      rw [List.forall_mem_cons] at hl
      have hnext : ∀ path, some c.key = some path → Point.lineFeed ∉ path := by
        intro path hp
        rw [← Option.some.inj hp]
        exact lineFeed_not_mem_key hb hl.1 hk
      have hline : c.line.count Point.lineFeed = c.text.count Point.lineFeed + 1 :=
        List.count_append
      have htext := count_text_of_becomes hb hl.1 hk
      have hrest := ih ht hl.2 hnext
      rw [scriptOf, List.flatMap_cons, ← scriptOf, List.count_append, hline, htext, hrest,
        List.length_cons, count_spelledIn_cons]
      omega

/-- **A script has a line feed for each header and each value, and those that octets spell**, so
that each command is one line when no octets spell a line feed, and only then. -/
theorem count_lineFeed_convert {s script : Text} (h : convert s = .ok script) :
    script.count Point.lineFeed = (headersOf (significantLines s)).length +
      (valuesOf (significantLines s)).length +
      (spelledIn (significantLines s)).count Point.lineFeed ∧
    (script.count Point.lineFeed =
        (headersOf (significantLines s)).length + (valuesOf (significantLines s)).length ↔
      ∀ l ∈ valuesOf (significantLines s), Point.lineFeed ∉ spelledOn l.2) := by
  obtain ⟨-, cs, hy, rfl⟩ := convert_eq_ok_iff.mp h
  have hcount := count_scriptOf_of_yields hy
    (fun l hl => lineFeed_not_mem_of_mem_significantLines hl) fun path hp => by cases hp
  have hspelled : (spelledIn (significantLines s)).count Point.lineFeed = 0 ↔
      ∀ l ∈ valuesOf (significantLines s), Point.lineFeed ∉ spelledOn l.2 := by
    rw [List.count_eq_zero, spelledIn, List.mem_flatMap]
    push Not
    rfl
  rw [length_headersOf_add_length_valuesOf, hcount, ← hspelled]
  exact ⟨rfl, by omega⟩

/-- A value whose octets spell a line feed. -/
def feeding : Text := "[HKEY_USERS]\nn=hex(2):0a,00"

def feedingScript : Text :=
  "New-Item -Path 'HKU:' -Force\n" ++
    Text.ofString "Set-ItemProperty -Path 'HKU:' -Name 'n' -Value \"\n\" -Type ExpandString\n"

theorem convert_feeding : convert feeding = .ok feedingScript :=
  convert_eq_ok_of_toOption (by decide +kernel)

theorem count_lineFeed_convert_feeding : convert feeding = .ok feedingScript ∧
    feedingScript.count Point.lineFeed = (headersOf (significantLines feeding)).length +
      (valuesOf (significantLines feeding)).length +
      (spelledIn (significantLines feeding)).count Point.lineFeed :=
  ⟨convert_feeding, (count_lineFeed_convert convert_feeding).1⟩

/-- Two lines become three. -/
theorem count_lineFeed_feeding_ne : convert feeding = .ok feedingScript ∧
    feedingScript.count Point.lineFeed = 3 ∧
    (headersOf (significantLines feeding)).length = 1 ∧
    (valuesOf (significantLines feeding)).length = 1 :=
  ⟨convert_feeding, by decide +kernel, by decide +kernel, by decide +kernel⟩

end Conversion

end HiveScript
