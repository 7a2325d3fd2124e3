import HiveScript.Proofs.Conversion.Run
import HiveScript.Proofs.Export.Basic

/-!
# Exports there and back

Every export that is written is converted to its script.

* `read_text`: each content is read for what it is, whatever it looks like.
* `text_solid_or_quoted`: no content is changed by trimming or by splitting lines.
* `becomes_line`, `yields_lines`: the commands of entries and of whole exports.
* `convert_write`: the round trip.
-/

namespace HiveScript.Export

open Conversion

variable (capital : Bool)

/-! ## Contents -/

theorem unpaired_flatMap (items : List WideText) :
    Utf16.Unpaired (items.flatMap fun w => w.points ++ [Point.nul]) := by
  induction items with
  | nil => exact List.isChain_nil
  | cons w items ih =>
    rw [List.flatMap_cons, List.append_assoc, List.singleton_append]
    exact Utf16.unpaired_append_nul_cons w.unpaired ih

theorem text_closedOctets {s : Text} (hs : Utf16.Unpaired s) :
    Payload.text (Payload.write capital (closedOctets s)) = s ++ [Point.nul] := by
  rw [Payload.text_write, closedOctets,
    Utf16.decode_encode (Utf16.unpaired_append_nul_cons hs List.isChain_nil)]

theorem read_dword (n : UInt32) :
    Datum.read (Datum.dwordTag ++ Numeral.hexDigits capital 8 n.toNat) = .ok (.dword n.toNat) := by
  have hw := Numeral.isHexNumeral_hexDigits capital 7 n.toNat
  have hv : Numeral.hexValue (Numeral.hexDigits capital 8 n.toNat) = n.toNat :=
    Numeral.hexValue_hexDigits capital n.toNat_lt
  have hl : n.toNat < Numeral.limit := by
    rw [← hv]
    refine Datum.hexValue_lt_limit hw ?_
    rw [Numeral.length_hexDigits]
    decide
  rw [Datum.read_dwordTag, Datum.readDword_of_isHexNumeral hw, hv, if_pos hl]
  rfl

/-- Dropping the null points drops the one that was put at the end. -/
theorem read_expandString (s : WideText) :
    Datum.read (Datum.expandStringTag ++ Payload.write capital (closedOctets s.points)) =
      .ok (.expandString s.points) := by
  have hn : ∀ p ∈ s.points, p ≠ Point.nul := fun p hp e => s.nulFree (e ▸ hp)
  have hs : s.points.filter (· ≠ Point.nul) = s.points :=
    List.filter_eq_self.mpr (by simpa using hn)
  have he : [Point.nul].filter (· ≠ Point.nul) = [] := rfl
  rw [Datum.read_expandStringTag, text_closedOctets capital s.unpaired, List.filter_append, hs, he,
    List.append_nil]

theorem read_multiString (items : List WideText) (hne : ∀ w ∈ items, w.points ≠ []) :
    Datum.read (Datum.multiStringTag ++ Payload.write capital
      (closedOctets (items.flatMap fun w => w.points ++ [Point.nul]))) =
      .ok (.multiString (items.map WideText.points)) := by
  have hi : ∀ w ∈ items.map WideText.points, w ≠ [] ∧ Point.nul ∉ w := by
    intro w hw
    obtain ⟨v, hv, rfl⟩ := List.mem_map.mp hw
    exact ⟨hne v hv, v.nulFree⟩
  have hf : items.flatMap (fun w => w.points ++ [Point.nul]) =
      (items.map WideText.points).flatMap (· ++ [Point.nul]) := by
    rw [List.flatMap_map]
  rw [Datum.read_multiStringTag, text_closedOctets capital (unpaired_flatMap items), hf,
    Datum.items_flatMap hi]

/-- **Each content is read for what it is.** -/
theorem read_text (c : Content) : Datum.read (c.text capital) = .ok (c.datum capital) := by
  cases c with
  | string s _ => exact Datum.read_doubleQuoted s
  | dword n => exact read_dword capital n
  | expandString s => exact read_expandString capital s
  | multiString items hne => exact read_multiString capital items hne
  | binary bs =>
    rw [Content.text, Datum.read_binaryTag, Payload.filter_write]
    rfl

theorem solid_of_mem_write {bs : Bytes} : ∀ p ∈ Payload.write capital bs, Solid p := by
  intro p hp
  rcases Payload.mem_write capital hp with rfl | hp
  · decide
  · exact solid_of_isHexDigit hp

/-- A content is quoted, or it has solid points only. -/
theorem text_solid_or_quoted (c : Content) : (∀ p ∈ c.text capital, Solid p) ∨
    ∃ s, Point.lineFeed ∉ s ∧ c.text capital = Script.doubleQuoted s := by
  have htag : ∀ tag : Text, tag.all (fun p => decide (Solid p)) = true → ∀ bs,
      ∀ p ∈ tag ++ Payload.write capital bs, Solid p := fun tag ht bs =>
    List.forall_mem_append.mpr ⟨forall_solid_of_all ht, solid_of_mem_write capital⟩
  cases c with
  | string s hs => exact .inr ⟨s, hs, rfl⟩
  | dword n =>
    refine .inl (List.forall_mem_append.mpr ⟨forall_solid_of_all (by decide), fun p hp => ?_⟩)
    exact solid_of_isHexDigit (Numeral.isHexDigit_of_mem_hexDigits p hp)
  | expandString s => exact .inl (htag _ (by decide) _)
  | multiString items _ => exact .inl (htag _ (by decide) _)
  | binary bs => exact .inl (htag _ (by decide) _)

theorem lineFeed_not_mem_doubleQuoted {s : Text} (hs : Point.lineFeed ∉ s) :
    Point.lineFeed ∉ Script.doubleQuoted s := by
  have hq : Point.lineFeed ≠ Point.quotationMark := by decide
  simp [Script.doubleQuoted, hs, hq]

theorem lineFeed_not_mem_text (c : Content) : Point.lineFeed ∉ c.text capital := by
  rcases text_solid_or_quoted capital c with h | ⟨s, hs, he⟩
  · exact not_mem_of_forall_solid h
  · rw [he]
    exact lineFeed_not_mem_doubleQuoted hs

theorem isTrimmed_text (c : Content) : IsTrimmed (c.text capital) := by
  rcases text_solid_or_quoted capital c with h | ⟨s, -, he⟩
  · exact isTrimmed_of_forall h
  · rw [he]
    refine isTrimmed_cons_append (by decide) (List.cons_ne_nil _ _) fun q hq => ?_
    rw [← Option.some.inj hq]
    decide

/-! ## Lines -/

theorem becomes_line (path : Text) (e : Entry) : Becomes (some path) (e.line capital)
    (.setValue path e.name (e.content.datum capital)) := by
  have hv : ¬ IsHeader (e.line capital) := fun h => absurd (Option.some.inj h) (by decide)
  have hf : Point.ofChar '=' ∉ Script.doubleQuoted e.name := by
    have hq : Point.ofChar '=' ≠ Point.quotationMark := by decide
    simp [Script.doubleQuoted, e.noEquals, hq]
  have hr : Datum.read (e.content.text capital).trim = .ok (e.content.datum capital) := by
    rw [trim_of_isTrimmed (isTrimmed_text capital e.content), read_text]
  have hn : Datum.unquote (Script.doubleQuoted e.name) = e.name := Datum.unquote_doubleQuoted e.name
  rw [← hn]
  exact .value rfl hv hf hr

/-- A line that is found as it was written. -/
structure Kept (line : Text) : Prop where
  oneLine : Point.lineFeed ∉ line
  trimmed : IsTrimmed line
  significant : isSignificant line = true

theorem kept_line (e : Entry) : Kept (e.line capital) where
  oneLine := by
    have he : Point.lineFeed ≠ Point.ofChar '=' := by decide
    have hn := lineFeed_not_mem_doubleQuoted e.oneLine
    simp [Entry.line, hn, he, lineFeed_not_mem_text capital e.content]
  trimmed := by
    have ht := isTrimmed_text capital e.content
    refine isTrimmed_cons_append (s := e.name ++ [Point.quotationMark]) (by decide)
      (List.cons_ne_nil _ _) fun q hq => ?_
    rw [List.getLast?_cons] at hq
    cases hl : (e.content.text capital).getLast? with
    | none =>
      rw [hl] at hq
      rw [← Option.some.inj hq]
      decide
    | some p =>
      rw [hl] at hq
      rw [← Option.some.inj hq]
      exact ht p (.inr hl)
  significant := rfl

theorem kept_header (s : Section) : Kept (headerLine (s.hive.name ++ s.suffix)) where
  oneLine := by
    have ho : Point.lineFeed ≠ Point.ofChar '[' := by decide
    have hc : Point.lineFeed ≠ Point.ofChar ']' := by decide
    have hn : Point.lineFeed ∉ s.hive.name := by cases s.hive <;> decide
    simp [headerLine, ho, hc, hn, s.oneLine]
  trimmed := by
    refine isTrimmed_cons_append (by decide) (List.cons_ne_nil _ _) fun q hq => ?_
    rw [← Option.some.inj hq]
    decide
  significant := rfl

theorem kept_of_mem_lines (s : Section) : ∀ l ∈ s.lines capital, Kept l := by
  intro l hl
  rcases List.mem_cons.mp hl with rfl | hl
  · exact kept_header s
  · obtain ⟨e, -, rfl⟩ := List.mem_map.mp hl
    exact kept_line capital e

theorem isTrimmed_bannerLine : IsTrimmed bannerLine := by
  rintro p (hp | hp) <;> rw [← Option.some.inj hp] <;> decide

theorem significantLines_write (style : Style) (e : Export) :
    (significantLines (write style e)).map Prod.snd = e.flatMap (Section.lines style.capital) := by
  have hkept : ∀ l ∈ e.flatMap (Section.lines style.capital), Kept l := by
    intro l hl
    obtain ⟨s, -, hl⟩ := List.mem_flatMap.mp hl
    exact kept_of_mem_lines style.capital s l hl
  have hlines : ∀ l ∈ lines style.capital e, Point.lineFeed ∉ l ∧ IsTrimmed l := by
    intro l hl
    rcases List.mem_cons.mp hl with rfl | hl
    · exact ⟨by decide, isTrimmed_bannerLine⟩
    · rcases List.mem_cons.mp hl with rfl | hl
      · exact ⟨List.not_mem_nil, fun p hp => by simp at hp⟩
      · exact ⟨(hkept l hl).oneLine, (hkept l hl).trimmed⟩
  have hbanner : isSignificant bannerLine = false := by decide
  have hempty : isSignificant [] = false := rfl
  rw [write, significantLines_unlines style.ends hlines, lines, List.filter_cons, hbanner,
    List.filter_cons, hempty]
  exact List.filter_eq_self.mpr fun l hl => (hkept l hl).significant

/-! ## Commands -/

def Entry.command (path : Text) (e : Entry) : Command :=
  .setValue path e.name (e.content.datum capital)

def Section.commands (s : Section) : List Command :=
  .createKey s.path :: s.entries.map (Entry.command capital s.path)

theorem yields_entries {path : Text} {lines : List Text} {cs : List Command}
    (h : Yields (some path) lines cs) (es : List Entry) :
    Yields (some path) (es.map (Entry.line capital) ++ lines)
      (es.map (Entry.command capital path) ++ cs) := by
  induction es with
  | nil => exact h
  | cons e es ih => exact .cons (becomes_line capital path e) ih

/-- The sections of an export have their commands whatever key is open before them. -/
theorem yields_lines (key : Option Text) (e : Export) :
    Yields key (e.flatMap (Section.lines capital)) (e.flatMap (Section.commands capital)) := by
  induction e generalizing key with
  | nil => exact .nil key
  | cons s e ih =>
    have hheader : Becomes key (headerLine (s.hive.name ++ s.suffix)) (.createKey s.path) :=
      .header (Hive.drivePath?_name_append s.hive s.suffix)
    rw [List.flatMap_cons, List.flatMap_cons]
    exact .cons hheader (yields_entries capital (ih _) s.entries)

theorem script_eq (e : Export) :
    script capital e = scriptOf (e.flatMap (Section.commands capital)) := by
  have hs : ∀ s : Section, s.script capital = (s.commands capital).map Command.text := by
    intro s
    simp [Section.script, Section.commands, Entry.command, Command.text, Function.comp_def]
  rw [script, scriptOf, funext hs, ← List.map_flatMap, List.flatMap_map]
  rfl

/-- **An export that is written is converted to its script.** -/
theorem convert_write (style : Style) (e : Export) :
    convert (write style e) = .ok (script style.capital e) := by
  have hb : ¬ (write style e).isBlank = true := fun h =>
    absurd (List.all_eq_true.mp h (Point.ofChar 'W') (List.mem_of_mem_head? rfl)) (by decide)
  refine convert_eq_ok_iff.mpr ⟨hb, e.flatMap (Section.commands style.capital), ?_,
    script_eq style.capital e⟩
  rw [significantLines_write]
  exact yields_lines style.capital none e

/-- A key with one number. -/
example : write ⟨false, fun _ => .lineFeed⟩
      [⟨.users, "\\A", by decide, [⟨"n", by decide, by decide, .dword 42⟩]⟩] =
    "Windows Registry Editor Version 5.00\n\n[HKEY_USERS\\A]\n\"n\"=dword:0000002a\n" := by
  decide

end HiveScript.Export
