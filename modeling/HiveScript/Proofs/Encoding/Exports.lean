import HiveScript.Encoding.Export
import HiveScript.Proofs.Encoding.Utf8
import HiveScript.Proofs.Results
import HiveScript.Run.Conversion

/-!
# Encodings of exports there and back

An export is read as the text that it was written from, in whichever encoding it comes: its octets
begin with no mark of another encoding.

* `Windows1252.decodeLossy_of_encode?`, `Utf16.decodeLossy_encode`: single encodings.
* `Utf8.not_prefix_encode`, `Utf8.head?_of_prefix`: a text in UTF-8 begins with no mark but its own.
* `length_decodeExport_le`: a text is no longer than its octets.
* `Text.ExportedAs`: the octets in which a text may come.
* **`decodeExport_exports`**: all of them are read as the text.
-/

namespace HiveScript

/-! ## Windows-1252 -/

namespace Windows1252

theorem point?_of_octet? {p : Point} {b : UInt8} (h : octet? p = some b) : point? b = some p := by
  rw [octet?] at h
  split_ifs at h with hlatin
  · obtain rfl := Option.some.inj h
    have hval : (UInt8.ofNat p.val).toNat = p.val :=
      UInt8.toNat_ofNat_of_lt' (show p.val < 0x100 by omega)
    have houtside : ¬ (0x80 ≤ p.val ∧ p.val < 0xA0) := by omega
    have hrange : ¬ (0x80 ≤ UInt8.ofNat p.val ∧ UInt8.ofNat p.val < 0xA0) := by
      rw [UInt8.le_iff_toNat_le, UInt8.lt_iff_toNat_lt, hval]
      exact houtside
    rw [point?, if_neg hrange, hval, Point.ofNat_val]
  · obtain ⟨i, hi, rfl⟩ := Option.map_eq_some_iff.mp h
    obtain ⟨hlt, hp, -⟩ := List.findIdx?_eq_some_iff_getElem.mp hi
    have hlength : upperControls.length = 0x20 := rfl
    have hval : (UInt8.ofNat (0x80 + i)).toNat = 0x80 + i :=
      UInt8.toNat_ofNat_of_lt' (show 0x80 + i < 0x100 by omega)
    have hrange : 0x80 ≤ UInt8.ofNat (0x80 + i) ∧ UInt8.ofNat (0x80 + i) < 0xA0 := by
      rw [UInt8.le_iff_toNat_le, UInt8.lt_iff_toNat_lt, hval]
      exact ⟨Nat.le_add_right _ _, show 0x80 + i < 0xA0 by omega⟩
    rw [point?, if_pos hrange, hval, Nat.add_sub_cancel_left, List.getElem?_eq_getElem hlt,
      of_decide_eq_true hp]
    rfl

theorem decodeLossy_of_encode? {s : Text} {bs : Bytes} (h : encode? s = some bs) :
    decodeLossy bs = s := by
  rw [encode?] at h
  induction s generalizing bs with
  | nil =>
    obtain rfl := Option.some.inj h
    rfl
  | cons p s ih =>
    rw [List.mapM_cons] at h
    obtain ⟨b, hb, h⟩ := Option.bind_eq_some_iff.mp h
    obtain ⟨bs', hbs, h⟩ := Option.bind_eq_some_iff.mp h
    obtain rfl := Option.some.inj h
    rw [decodeLossy, List.map_cons, point?_of_octet? hb]
    exact congrArg (p :: ·) (ih hbs)

end Windows1252

/-! ## UTF-16 -/

theorem Utf16.decodeLossy_encode (order : Order) {s : Text} (hs : s.IsWhole) :
    decodeLossy order (encode order s) = s := by
  have hu : ∀ u ∈ s.flatMap unitsOf, u.val < 0x10000 := by
    intro u hu
    obtain ⟨p, -, hp⟩ := List.mem_flatMap.mp hu
    exact lt_of_mem_unitsOf hp
  have hkept : ∀ p ∈ s, (if p.isSurrogate then Point.replacement else p) = p := by
    intro p hp
    rw [hs p hp]
    rfl
  rw [decodeLossy, encode, units_flatMap_unitOctets order hu]
  dsimp only
  rw [pairUp_flatMap_unitsOf (unpaired_of_isWhole hs), List.map_congr_left hkept, List.map_id']
  rfl

/-! ## Marks -/

theorem Bytes.after?_append (lead bs : Bytes) : after? lead (lead ++ bs) = some bs := by
  induction lead with
  | nil => cases bs <;> rfl
  | cons a lead ih => rw [List.cons_append, after?, if_pos rfl, ih]

theorem Bytes.exists_eq_append_of_after? {lead bs rest : Bytes} (h : after? lead bs = some rest) :
    bs = lead ++ rest := by
  induction lead generalizing bs with
  | nil =>
    cases bs <;> exact Option.some.inj h
  | cons a lead ih =>
    cases bs with
    | nil => cases h
    | cons b bs =>
      rw [after?] at h
      split_ifs at h with hab
      rw [hab, ih h, List.cons_append]

theorem Bytes.after?_eq_none_iff {lead bs : Bytes} : after? lead bs = none ↔ ¬ lead <+: bs := by
  rw [Option.eq_none_iff_forall_ne_some]
  exact ⟨fun h ⟨rest, hrest⟩ => h rest (hrest ▸ after?_append lead rest),
    fun h rest hrest => h ⟨rest, (exists_eq_append_of_after? hrest).symm⟩⟩

/-- In UTF-8 only the marks of UTF-8 begin with their lead octets. -/
theorem Utf8.not_prefix_encode {s : Text} (hs : s.IsWhole) (order : Utf16.Order) :
    ¬ Utf16.mark order <+: encode s := by
  rintro ⟨rest, hrest⟩
  have hdecode := decode_encode false (.inr hs)
  have hnone : (decode false (encode s)).head? = some none := by
    rw [← hrest]
    cases order <;> rfl
  rw [hdecode, List.head?_map] at hnone
  obtain ⟨p, -, hp⟩ := Option.map_eq_some_iff.mp hnone
  cases hp

/-- The mark of UTF-8 is the byte order mark in UTF-8. -/
theorem Utf8.head?_of_prefix {s : Text} (hs : s.IsWhole) (h : mark <+: encode s) :
    s.head? = some Point.byteOrderMark := by
  obtain ⟨rest, hrest⟩ := h
  have hmark : mark = octets Point.byteOrderMark := by decide
  have hdecode := decode_encode false (.inr hs)
  rw [← hrest, hmark, decode, decodeFrom_octets_append false _ (.inr (by decide))] at hdecode
  obtain ⟨p, t, rfl, hp, -⟩ := List.map_eq_cons_iff.mp hdecode.symm
  exact hp

/-! ## Exports -/

/-- The octets in which a text may be exported. -/
inductive Text.ExportedAs (t : Text) : Bytes → Prop where
  | utf16 (order : Utf16.Order) : ExportedAs t (Utf16.mark order ++ Utf16.encode order t)
  | markedUtf8 : ExportedAs t (Utf8.mark ++ Utf8.encode t)
  | utf8 (unmarked : t.head? ≠ some Point.byteOrderMark) : ExportedAs t (Utf8.encode t)
  | windows1252 {bs : Bytes} (octets : Windows1252.encode? t = some bs)
    (not_utf8 : Utf8.decode? false bs = none) (not_utf16 : ∀ order, ¬ Utf16.mark order <+: bs)
    (not_markedUtf8 : ¬ Utf8.mark <+: bs) : ExportedAs t bs

section

open Bytes

variable {bs : Bytes}

theorem decodeExport_utf16 (order : Utf16.Order) :
    decodeExport (Utf16.mark order ++ bs) = Utf16.decodeLossy order bs := by
  cases order <;> rfl

theorem decodeExport_markedUtf8 : decodeExport (Utf8.mark ++ bs) = Utf8.decodeLossy bs := rfl

theorem decodeExport_unmarked (hutf16 : ∀ order, ¬ Utf16.mark order <+: bs)
    (hutf8 : ¬ Utf8.mark <+: bs) :
    decodeExport bs = (Utf8.decode? false bs).getD (Windows1252.decodeLossy bs) := by
  rw [decodeExport, after?_eq_none_iff.mpr (hutf16 .lowFirst),
    after?_eq_none_iff.mpr (hutf16 .highFirst), after?_eq_none_iff.mpr hutf8]

end

/-- Not more points are read than there are octets. -/
theorem length_decodeExport_le (bs : Bytes) : (decodeExport bs).length ≤ bs.length := by
  have hrest : ∀ {lead rest : Bytes}, Bytes.after? lead bs = some rest →
      rest.length ≤ bs.length := by
    intro lead rest h
    rw [Bytes.exists_eq_append_of_after? h, List.length_append]
    exact Nat.le_add_left _ _
  have hutf8 : ∀ cs : Bytes, (Utf8.decodeLossy cs).length ≤ cs.length := by
    intro cs
    rw [Utf8.decodeLossy, List.length_map]
    exact Utf8.length_decode_le false cs
  rw [decodeExport]
  split
  · next rest h => exact (Utf16.length_decodeLossy_le _ rest).trans (hrest h)
  · split
    · next rest h => exact (Utf16.length_decodeLossy_le _ rest).trans (hrest h)
    · split
      · next rest h => exact (hutf8 rest).trans (hrest h)
      · cases hwhole : Utf8.decode? false bs with
        | some s =>
          rw [Option.getD_some, length_eq_of_mapM_eq_some hwhole]
          exact Utf8.length_decode_le false bs
        | none =>
          rw [Option.getD_none, Windows1252.decodeLossy, List.length_map]

theorem Text.ExportedAs.decodeExport_eq {t : Text} (ht : t.IsWhole) {bs : Bytes}
    (h : t.ExportedAs bs) : decodeExport bs = t := by
  cases h with
  | utf16 order => rw [decodeExport_utf16, Utf16.decodeLossy_encode order ht]
  | markedUtf8 => rw [decodeExport_markedUtf8, Utf8.decodeLossy_encode ht]
  | utf8 unmarked =>
    have hmark : ¬ Utf8.mark <+: Utf8.encode t := fun h => unmarked (Utf8.head?_of_prefix ht h)
    rw [decodeExport_unmarked (Utf8.not_prefix_encode ht) hmark,
      Utf8.decode?_encode false (.inr ht), Option.getD_some]
  | windows1252 octets not_utf8 not_utf16 not_markedUtf8 =>
    rw [decodeExport_unmarked not_utf16 not_markedUtf8, not_utf8, Option.getD_none,
      Windows1252.decodeLossy_of_encode? octets]

/-- **An export is read as its text in every encoding**, so its conversion is the same in all. -/
theorem decodeExport_exports {t : Text} (ht : t.IsWhole) :
    (∀ bs, t.ExportedAs bs → decodeExport bs = t) ∧
      ∀ bs bs', t.ExportedAs bs → t.ExportedAs bs' →
        Run.convert (decodeExport bs) = Run.convert (decodeExport bs') := by
  have hread : ∀ bs, t.ExportedAs bs → decodeExport bs = t := fun _ h => h.decodeExport_eq ht
  refine ⟨hread, fun bs bs' h h' => ?_⟩
  rw [hread bs h, hread bs' h']

/-- A mark of the text itself stays behind the mark of its encoding. -/
theorem decodeExport_exports_bracket :
    decodeExport (Utf8.mark ++ Utf8.encode "\uFEFF[é]") = "\uFEFF[é]" ∧
      Run.convert (decodeExport [0x5B, 0xE9, 0x5D]) =
        Run.convert (decodeExport [0xFE, 0xFF, 0, 0x5B, 0, 0xE9, 0, 0x5D]) :=
  have hwindows1252 : Text.ExportedAs "[é]" [0x5B, 0xE9, 0x5D] :=
    .windows1252 (by decide) (by decide) (fun order => by cases order <;> decide) (by decide)
  ⟨(decodeExport_exports (t := "\uFEFF[é]") (by decide)).1 _ .markedUtf8,
    (decodeExport_exports (t := "[é]") (by decide)).2 _ _ hwindows1252 (.utf16 .highFirst)⟩

end HiveScript
