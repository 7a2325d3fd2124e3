import HiveScript.Conversion.Result
import HiveScript.Proofs.Conversion.LineFeeds
import HiveScript.Proofs.Text.Breaks

/-!
# Reported counts

The keys and the values of a script are counted by the words that its broken lines begin with. A
line of an export ends at a line feed only, so that a path, a name or a datum may hold a break of
another kind, and words of a command after it are counted as well.

* `Command.texts`: the texts of an export that a command quotes.
* `IsLead`: words that no quote is part of; `afterBreaks_text`: where they stand after a break.
* `length_filter_brokenLines_scriptOf`: the broken lines of a script that begin with such words.
* **`counts_of_convert`**: the reported counts, and when they are those of the headers and values.
* `straying`: a text with one header that is reported with two keys.
-/

namespace HiveScript

/-! ## Quoted texts -/

/-- The texts that a literal quotes. -/
def Datum.texts : Datum → List Text
  | string s => [s]
  | expandString s => [s]
  | multiString items => items
  | dword _ => []
  | binary digits => [digits]

/-- The texts of an export that a command quotes. -/
def Command.texts : Command → List Text
  | createKey path => [path]
  | setValue path name datum => path :: name :: datum.texts

/-- How often some words stand directly after a break in what a command quotes. -/
def Command.strays (lead : Text) (c : Command) : Nat := (c.texts.map (Text.afterBreaks lead)).sum

/-- Words without breaks and quotes. -/
structure IsLead (lead : Text) : Prop where
  ne_nil : lead ≠ []
  isBreak : ∀ p ∈ lead, p.isBreak = false
  apostrophe : Point.apostrophe ∉ lead
  quotationMark : Point.quotationMark ∉ lead

/-- The words that a command begins with. -/
def commandWords : List Text := ["New-Item ", "Set-ItemProperty "]

/-- Decides without going through all points. -/
theorem isBreak_of_all {s : Text} (h : s.all (fun p => !p.isBreak) = true) :
    ∀ p ∈ s, p.isBreak = false := by
  simpa using h

theorem isBreak_of_isDigit {p : Point} (h : p.isDigit = true) : p.isBreak = false := by
  have hdigit : 0x30 ≤ p.val ∧ p.val ≤ 0x39 := by simpa [Point.isDigit, Ranges.has] using h
  simp only [Point.isBreak, Ranges.has, breakRanges, List.any_eq_false, List.mem_cons,
    List.not_mem_nil, or_false, Bool.and_eq_true, decide_eq_true_eq]
  rintro r (rfl | rfl | rfl | rfl) <;> dsimp only <;> omega

theorem isLead_of_mem_commandWords {lead : Text} (h : lead ∈ commandWords) : IsLead lead := by
  rw [commandWords, List.mem_cons, List.mem_singleton] at h
  rcases h with rfl | rfl
  · exact ⟨by decide, isBreak_of_all (by decide), by decide, by decide⟩
  · exact ⟨by decide, isBreak_of_all (by decide), by decide, by decide⟩

namespace IsLead

variable {lead : Text} (hlead : IsLead lead)

include hlead

/-! ## Words after breaks in commands -/

theorem afterBreaks_singleQuoted (s b : Text) :
    Text.afterBreaks lead (Script.singleQuoted s ++ b) =
      Text.afterBreaks lead s + Text.afterBreaks lead b := by
  have hopen : Script.singleQuoted s ++ b = Point.apostrophe :: (s ++ Point.apostrophe :: b) := by
    simp [Script.singleQuoted]
  rw [hopen, Text.afterBreaks_cons_of_not_isBreak (by decide),
    Text.afterBreaks_append_cons hlead.apostrophe,
    Text.afterBreaks_cons_of_not_isBreak (p := Point.apostrophe) (by decide)]

theorem afterBreaks_append_quotationMark (s b : Text) :
    Text.afterBreaks lead (s ++ Point.quotationMark :: b) =
      Text.afterBreaks lead s + Text.afterBreaks lead b := by
  rw [Text.afterBreaks_append_cons hlead.quotationMark,
    Text.afterBreaks_cons_of_not_isBreak (p := Point.quotationMark) (by decide)]

theorem afterBreaks_doubleQuoted (s b : Text) :
    Text.afterBreaks lead (Script.doubleQuoted s ++ b) =
      Text.afterBreaks lead s + Text.afterBreaks lead b := by
  have hopen : Script.doubleQuoted s ++ b =
      Point.quotationMark :: (s ++ Point.quotationMark :: b) := by
    simp [Script.doubleQuoted]
  rw [hopen, Text.afterBreaks_cons_of_not_isBreak (by decide),
    hlead.afterBreaks_append_quotationMark]

theorem afterBreaks_join (ws : List Text) (b : Text) :
    Text.afterBreaks lead (Text.join "\",\"" ws ++ Point.quotationMark :: b) =
      (ws.map (Text.afterBreaks lead)).sum + Text.afterBreaks lead b := by
  induction ws with
  | nil => rw [Text.join, hlead.afterBreaks_append_quotationMark]; rfl
  | cons w ws ih =>
    cases ws with
    | nil =>
      rw [Text.join, hlead.afterBreaks_append_quotationMark, List.map_singleton,
        List.sum_singleton]
    | cons v ws =>
      have hsep : Text.join "\",\"" (w :: v :: ws) ++ Point.quotationMark :: b =
          w ++ Point.quotationMark :: (Text.ofString ",\"" ++
            (Text.join "\",\"" (v :: ws) ++ Point.quotationMark :: b)) := by
        have hopen : Text.ofString "\",\"" = Point.quotationMark :: Text.ofString ",\"" := rfl
        rw [Text.join_cons_cons, hopen]
        simp
      rw [hsep, hlead.afterBreaks_append_quotationMark,
        Text.afterBreaks_append_of_forall (isBreak_of_all (by decide)), ih, List.map_cons (a := w),
        List.sum_cons, Nat.add_assoc]

theorem afterBreaks_stringArray (ws : List Text) (b : Text) :
    Text.afterBreaks lead (Script.stringArray ws ++ b) =
      (ws.map (Text.afterBreaks lead)).sum + Text.afterBreaks lead b := by
  have hopen : Script.stringArray ws ++ b = Text.ofString "@(\"" ++
      (Text.join "\",\"" ws ++ Point.quotationMark :: (Text.ofString ")" ++ b)) := by
    have hclose : Text.ofString "\")" = Point.quotationMark :: Text.ofString ")" := rfl
    rw [Script.stringArray, hclose]
    simp
  rw [hopen, Text.afterBreaks_append_of_forall (isBreak_of_all (by decide)),
    hlead.afterBreaks_join, Text.afterBreaks_append_of_forall (isBreak_of_all (by decide))]

theorem afterBreaks_literal (d : Datum) (b : Text) :
    Text.afterBreaks lead (d.literal ++ b) =
      (d.texts.map (Text.afterBreaks lead)).sum + Text.afterBreaks lead b := by
  cases d with
  | string s => simp [Datum.literal, Datum.texts, hlead.afterBreaks_singleQuoted]
  | expandString s => simp [Datum.literal, Datum.texts, hlead.afterBreaks_doubleQuoted]
  | multiString items => exact hlead.afterBreaks_stringArray items b
  | dword n =>
    rw [Datum.literal, Text.afterBreaks_append_of_forall fun p hp =>
      isBreak_of_isDigit (Numeral.isDigit_of_mem_decimal hp)]
    simp [Datum.texts]
  | binary digits => simp [Datum.literal, Datum.texts, hlead.afterBreaks_doubleQuoted]

/-- **In a command words stand after breaks where they do in what it quotes.** -/
theorem afterBreaks_text (c : Command) : Text.afterBreaks lead c.text = c.strays lead := by
  cases c with
  | createKey path =>
    have hforce : Text.afterBreaks lead (Text.ofString " -Force") = 0 :=
      Text.afterBreaks_of_forall (isBreak_of_all (by decide))
    rw [Command.text, Script.newItem, List.append_assoc,
      Text.afterBreaks_append_of_forall (isBreak_of_all (by decide)),
      hlead.afterBreaks_singleQuoted, hforce, Command.strays, Command.texts, List.map_singleton,
      List.sum_singleton, Nat.add_zero]
  | setValue path name datum =>
    have htype : ∀ p ∈ datum.type.name, p.isBreak = false := by
      cases datum.type <;> exact isBreak_of_all (by decide)
    have hbefore : ∀ {a : Text}, a.all (fun p => !p.isBreak) = true → ∀ b,
        Text.afterBreaks lead (a ++ b) = Text.afterBreaks lead b :=
      fun ha => Text.afterBreaks_append_of_forall (isBreak_of_all ha)
    simp only [Command.text, Script.setItemProperty, List.append_assoc]
    rw [hbefore (by decide), hlead.afterBreaks_singleQuoted, hbefore (by decide),
      hlead.afterBreaks_singleQuoted, hbefore (by decide), hlead.afterBreaks_literal,
      hbefore (by decide), Text.afterBreaks_of_forall htype, Command.strays, Command.texts,
      List.map_cons, List.map_cons, List.sum_cons, List.sum_cons, Nat.add_zero]

/-- **The broken lines of a script that begin with some words** are commands that do, and what
stands after breaks in the texts that are quoted. -/
theorem length_filter_brokenLines_scriptOf (cs : List Command) :
    ((scriptOf cs).brokenLines.filter (Text.beginsWith lead)).length =
      (cs.filter fun c => Text.beginsWith lead c.text).length +
        (cs.map (Command.strays lead)).sum := by
  have hfeed : Point.lineFeed ∉ lead := fun h => absurd (hlead.isBreak _ h) (by decide)
  rw [Text.length_filter_brokenLines hlead.isBreak hlead.ne_nil]
  induction cs with
  | nil =>
    rw [scriptOf, List.flatMap_nil, Text.beginsWith_nil hlead.ne_nil]
    rfl
  | cons c cs ih =>
    have hscript : scriptOf (c :: cs) = c.text ++ Point.lineFeed :: scriptOf cs := by
      simp [scriptOf, Command.line]
    have hline : Text.afterBreaks lead (Point.lineFeed :: scriptOf cs) =
        (if Text.beginsWith lead (scriptOf cs) then 1 else 0) +
          Text.afterBreaks lead (scriptOf cs) := rfl
    rw [hscript, Text.beginsWith_append_cons hfeed, Text.afterBreaks_append_cons hfeed,
      hlead.afterBreaks_text, hline, ih, List.map_cons, List.sum_cons, List.filter_cons]
    by_cases hc : Text.beginsWith lead c.text = true
    · rw [if_pos hc, if_pos hc, List.length_cons]
      omega
    · rw [if_neg hc, if_neg hc]
      omega

end IsLead

namespace Conversion

/-! ## Counts of a text -/

/-- A header becomes a command of the first kind, and a value one of the second kind. -/
theorem beginsWith_of_becomes {key : Option Text} {line : Text} {c : Command}
    (h : Becomes key line c) :
    Text.beginsWith "New-Item " c.text = decide (IsHeader line) ∧
      Text.beginsWith "Set-ItemProperty " c.text = !decide (IsHeader line) := by
  cases h with
  | header _ => exact ⟨rfl, rfl⟩
  | value _ hv _ _ =>
    rw [decide_eq_false hv]
    exact ⟨rfl, rfl⟩

/-- There is a command of the first kind for each header, and one of the second kind for each
value. -/
theorem length_filter_of_yields {key : Option Text} {ls : List (Nat × Text)} {cs : List Command}
    (h : Yields key (ls.map Prod.snd) cs) :
    (cs.filter fun c => Text.beginsWith "New-Item " c.text).length = (headersOf ls).length ∧
      (cs.filter fun c => Text.beginsWith "Set-ItemProperty " c.text).length =
        (valuesOf ls).length := by
  induction ls generalizing key cs with
  | nil =>
    cases h
    exact ⟨rfl, rfl⟩
  | cons l ls ih =>
    cases h with
    | @cons _ _ c _ cs hb ht =>
      obtain ⟨hnew, hset⟩ := beginsWith_of_becomes hb
      obtain ⟨hheaders, hvalues⟩ := ih ht
      rw [headersOf] at hheaders
      rw [valuesOf] at hvalues
      rw [headersOf, valuesOf]
      by_cases hh : IsHeader l.2
      · simp [hnew, hset, hh, hheaders, hvalues]
      · simp [hnew, hset, hh, hheaders, hvalues]

/-- Nothing strays if no break stands directly before the words. -/
theorem strays_eq_zero_iff {lead : Text} {cs : List Command} :
    (cs.map (Command.strays lead)).sum = 0 ↔
      ∀ c ∈ cs, ∀ t ∈ c.texts, ∀ p : Point, p.isBreak = true → ¬ (p :: lead) <:+: t := by
  simp only [List.sum_eq_zero_iff_forall_eq_nat, List.forall_mem_map, Command.strays,
    Text.afterBreaks_eq_zero_iff]

/-- **Reported counts.**

A text that is converted is reported with a key for each header and a value for each value line, and
with one more for each time that the words of a command stand directly after a break in what the
commands quote. So these are the counts of headers and value lines if and only if the words stand so
nowhere. -/
theorem counts_of_convert {s script : Text} (h : convert s = .ok script) :
    ∃ (r : Result) (cs : List Command), tryConvert s = .ok r ∧
      Yields none ((significantLines s).map Prod.snd) cs ∧
      r.keys = (headersOf (significantLines s)).length +
        (cs.map (Command.strays "New-Item ")).sum ∧
      r.values = (valuesOf (significantLines s)).length +
        (cs.map (Command.strays "Set-ItemProperty ")).sum ∧
      (r.fields : List (Text × Value)) = [(Text.ofString "ok", .bool true),
        (Text.ofString "keys", .nat r.keys), (Text.ofString "values", .nat r.values)] ∧
      (r.keys = (headersOf (significantLines s)).length ∧
          r.values = (valuesOf (significantLines s)).length ↔
        ∀ lead ∈ commandWords, ∀ c ∈ cs, ∀ t ∈ c.texts, ∀ p : Point, p.isBreak = true →
          ¬ (p :: lead) <:+: t) := by
  obtain ⟨-, cs, hy, rfl⟩ := convert_eq_ok_iff.mp h
  obtain ⟨hheaders, hvalues⟩ := length_filter_of_yields hy
  have hcount : ∀ lead ∈ commandWords, Result.count lead ⟨some (scriptOf cs), none⟩ =
      (cs.filter fun c => Text.beginsWith lead c.text).length +
        (cs.map (Command.strays lead)).sum :=
    fun lead hlead => (isLead_of_mem_commandWords hlead).length_filter_brokenLines_scriptOf cs
  have hkeys : Result.keys ⟨some (scriptOf cs), none⟩ =
      (headersOf (significantLines s)).length + (cs.map (Command.strays "New-Item ")).sum := by
    rw [Result.keys, hcount _ (by simp [commandWords]), hheaders]
  have hvals : Result.values ⟨some (scriptOf cs), none⟩ =
      (valuesOf (significantLines s)).length +
        (cs.map (Command.strays "Set-ItemProperty ")).sum := by
    rw [Result.values, hcount _ (by simp [commandWords]), hvalues]
  refine ⟨⟨some (scriptOf cs), none⟩, cs, by rw [tryConvert, h], hy, hkeys, hvals, rfl, ?_⟩
  rw [hkeys, hvals, commandWords, List.forall_mem_cons, List.forall_mem_singleton,
    ← strays_eq_zero_iff, ← strays_eq_zero_iff]
  omega

/-- A name with a line separator, and the words of a command after it. -/
def straying : Text := "[HKEY_USERS]\n\"x\u2028New-Item y\"=1"

def strayingScript : Text :=
  "New-Item -Path 'HKU:' -Force\n" ++ Text.ofString
    "Set-ItemProperty -Path 'HKU:' -Name 'x\u2028New-Item y' -Value '1' -Type String\n"

theorem convert_straying : convert straying = .ok strayingScript :=
  convert_eq_ok_of_toOption (by decide +kernel)

theorem counts_of_convert_straying : convert straying = .ok strayingScript ∧
    ∃ (r : Result) (cs : List Command), tryConvert straying = .ok r ∧
      r.keys = (headersOf (significantLines straying)).length +
        (cs.map (Command.strays "New-Item ")).sum ∧
      r.values = (valuesOf (significantLines straying)).length +
        (cs.map (Command.strays "Set-ItemProperty ")).sum := by
  obtain ⟨r, cs, hr, -, hkeys, hvalues, -⟩ := counts_of_convert convert_straying
  exact ⟨convert_straying, r, cs, hr, hkeys, hvalues⟩

/-- One header is reported as two keys. -/
theorem counts_straying_ne : ∃ r, tryConvert straying = .ok r ∧ r.keys = 2 ∧ r.values = 1 ∧
    (headersOf (significantLines straying)).length = 1 ∧
    (valuesOf (significantLines straying)).length = 1 :=
  ⟨⟨some strayingScript, none⟩, by rw [tryConvert, convert_straying], by decide +kernel,
    by decide +kernel, by decide +kernel, by decide +kernel⟩

end Conversion

end HiveScript
