import HiveScript.Proofs.Registry.Datum

/-!
# What line parts denote

* `Reads`: a line part and its datum, one rule for each form of a part.
* **`read_eq_ok_iff`**: reading finds the datum by these rules, and only by them.
* `exists_numeral_of_read`, `nonempty_of_read`: the numbers that are read, and that the items of an
  array are not empty.
-/

namespace HiveScript.Datum

open Numeral

/-- The tags of line parts. -/
def tags : List Text := [dwordTag, multiStringTag, expandStringTag, binaryTag]

/-- A line part denotes a datum. -/
inductive Reads : Text → Datum → Prop
  | dword {w : Text} (numeral : IsHexNumeral w) (short : hexValue w < limit) :
      Reads (dwordTag ++ w) (.dword (hexValue w))
  | multiString (w : Text) : Reads (multiStringTag ++ w) (.multiString (items (Payload.text w)))
  | expandString (w : Text) :
      Reads (expandStringTag ++ w) (.expandString ((Payload.text w).filter (· ≠ Point.nul)))
  | binary (w : Text) : Reads (binaryTag ++ w) (.binary (w.filter (· ≠ Point.ofChar ',')))
  | quoted (s : Text) : Reads (Script.doubleQuoted s) (.string s)
  | loneQuote : Reads [Point.quotationMark] (.string [])
  | bare {s : Text} (untagged : ∀ tag ∈ tags, ¬ tag <+: s)
      (unquoted : ¬ (s.head? = some Point.quotationMark ∧ s.getLast? = some Point.quotationMark)) :
      Reads s (.string s)

/-- What begins and ends with a quotation mark is a quoted text, or one mark that is both. -/
theorem eq_doubleQuoted_or {s : Text} (hh : s.head? = some Point.quotationMark)
    (hl : s.getLast? = some Point.quotationMark) :
    (∃ t, s = Script.doubleQuoted t) ∨ s = [Point.quotationMark] := by
  obtain ⟨t, rfl⟩ := List.head?_eq_some_iff.mp hh
  rcases List.eq_nil_or_concat t with rfl | ⟨t, p, rfl⟩
  · exact .inr rfl
  · rw [List.concat_eq_append, ← List.cons_append, List.getLast?_append, List.getLast?_singleton,
      Option.some_or, Option.some.injEq] at hl
    exact .inl ⟨t, by rw [hl, List.concat_eq_append]; rfl⟩

theorem read_of_untagged {s : Text} (h : ∀ tag ∈ tags, ¬ tag <+: s) : read s =
    if s.head? = some Point.quotationMark ∧ s.getLast? = some Point.quotationMark then
      .ok (string (unquote s))
    else .ok (string s) := by
  have hnone : ∀ tag ∈ tags, Text.after? tag s = none :=
    fun tag ht => Text.after?_eq_none_iff.mpr (h tag ht)
  rw [read, ← dwordTag, hnone dwordTag (by simp [tags]), ← multiStringTag,
    hnone multiStringTag (by simp [tags]), ← expandStringTag,
    hnone expandStringTag (by simp [tags]), ← binaryTag, hnone binaryTag (by simp [tags])]

theorem reads_of_read {s : Text} {d : Datum} (h : read s = .ok d) : Reads s d := by
  by_cases hs : ∃ tag ∈ tags, tag <+: s
  · obtain ⟨tag, ht, w, rfl⟩ := hs
    simp only [tags, List.mem_cons, List.not_mem_nil, or_false] at ht
    rcases ht with rfl | rfl | rfl | rfl
    · rw [read_dwordTag] at h
      by_cases hw : IsHexNumeral w
      · rw [readDword_of_isHexNumeral hw] at h
        split_ifs at h with hl
        · obtain rfl := Except.ok.inj h
          exact .dword hw hl
        · cases h
      · rw [readDword_of_not_isHexNumeral hw] at h
        cases h
    · rw [read_multiStringTag] at h
      obtain rfl := Except.ok.inj h
      exact .multiString w
    · rw [read_expandStringTag] at h
      obtain rfl := Except.ok.inj h
      exact .expandString w
    · rw [read_binaryTag] at h
      obtain rfl := Except.ok.inj h
      exact .binary w
  · have hs : ∀ tag ∈ tags, ¬ tag <+: s := fun tag ht hp => hs ⟨tag, ht, hp⟩
    rw [read_of_untagged hs] at h
    split_ifs at h with hq
    · obtain rfl := Except.ok.inj h
      rcases eq_doubleQuoted_or hq.1 hq.2 with ⟨t, rfl⟩ | rfl
      · rw [unquote_doubleQuoted]
        exact .quoted t
      · exact .loneQuote
    · obtain rfl := Except.ok.inj h
      exact .bare hs hq

/-- **Reading finds the datum that a line part denotes.** -/
theorem read_eq_ok_iff {s : Text} {d : Datum} : read s = .ok d ↔ Reads s d := by
  refine ⟨reads_of_read, fun h => ?_⟩
  cases h with
  | dword hw hl => rw [read_dwordTag, readDword_of_isHexNumeral hw, if_pos hl]; rfl
  | multiString w => exact read_multiStringTag w
  | expandString w => exact read_expandStringTag w
  | binary w => exact read_binaryTag w
  | quoted s => exact read_doubleQuoted s
  | loneQuote => rfl
  | bare hs hq => rw [read_of_untagged hs, if_neg hq]

/-- Numbers are what is written after their tag. -/
theorem exists_numeral_of_read {s : Text} {d : Datum} (h : read s = .ok d) (ht : d.type = .dword) :
    ∃ w, s = dwordTag ++ w ∧ IsHexNumeral w ∧ d = .dword (hexValue w) := by
  cases read_eq_ok_iff.mp h with
  | @dword w hw _ => exact ⟨w, rfl, hw, rfl⟩
  | multiString _ | expandString _ | binary _ | quoted _ | loneQuote | bare _ _ => cases ht

/-- Empty items are dropped. -/
theorem nonempty_of_read {s : Text} {ws : List Text} (h : read s = .ok (.multiString ws)) :
    ∀ w ∈ ws, w ≠ [] := by
  cases read_eq_ok_iff.mp h with
  | multiString w =>
    intro v hv
    simpa using List.of_mem_filter hv

end HiveScript.Datum
