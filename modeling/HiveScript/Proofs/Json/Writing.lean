import HiveScript.Json.Printer
import HiveScript.Proofs.Results
import HiveScript.Proofs.Text.Ascii

/-!
# What JSON is made of

* `Json.integer_of_lt`: the numeral of an integer that is not too long.
* `Json.isAscii_string`, `Json.isWhole_string`: strings.
* **`Json.writesWhole_object`**: objects in the order of their fields.
-/

namespace HiveScript

theorem Numeral.limit_pos : 0 < limit := by
  unfold limit
  -- The exponent must not be computed with.
  generalize maxDigits = n
  exact Nat.pow_pos (by decide)

namespace Json

theorem integer_of_lt {i : Int} (h : i.natAbs < Numeral.limit) :
    integer i = .ok (Numeral.ofInt i) := by
  have hsome : Numeral.ofInt? i = some (Numeral.ofInt i) := if_pos h
  -- The equation of this definition would evaluate the bound on numerals.
  delta integer
  rw [hsome]

theorem write_nat {n : Nat} (h : n < Numeral.limit) (l : Layout) (depth : Nat) :
    write l depth (.nat n) = .ok (Numeral.decimal n) := by
  rw [Value.nat, Value.int, write, scalar]
  exact integer_of_lt (i := n) h

/-! ## Strings -/

theorem isAscii_codeEscape (n : Nat) : (codeEscape n).IsAscii :=
  Text.IsAscii.append (by decide) (Numeral.isBasic_padded (by decide) (by decide) 4 n).isAscii

theorem isAscii_codeEscapes (p : Point) : (codeEscapes p).IsAscii := by
  rw [codeEscapes]
  split_ifs
  · exact isAscii_codeEscape _
  · exact (isAscii_codeEscape _).append (isAscii_codeEscape _)

/-- A point is written in ASCII, or stands for itself. -/
theorem isAscii_stringPoint_or (ascii : Bool) (p : Point) :
    (stringPoint ascii p).IsAscii ∨ ascii = false ∧ stringPoint ascii p = [p] := by
  rw [stringPoint]
  split_ifs with hmarks _ _ _ _ _ hcode
  · refine .inl (List.forall_mem_cons.mpr ⟨by decide, List.forall_mem_singleton.mpr ?_⟩)
    rcases hmarks with rfl | rfl <;> decide
  · exact .inl (by decide)
  · exact .inl (by decide)
  · exact .inl (by decide)
  · exact .inl (by decide)
  · exact .inl (by decide)
  · exact .inl (isAscii_codeEscapes p)
  · cases ascii with
    | false => exact .inr ⟨rfl, rfl⟩
    | true =>
      refine .inl (List.forall_mem_singleton.mpr ?_)
      have hlt : ¬ 0x7F ≤ p.val := fun hle => hcode (.inr ⟨rfl, hle⟩)
      omega

theorem isAscii_string (s : Text) : (string true s).IsAscii := by
  refine Text.IsAscii.append (Text.IsAscii.append (by decide) fun q hq => ?_) (by decide)
  obtain ⟨p, -, hq⟩ := List.mem_flatMap.mp hq
  rcases isAscii_stringPoint_or true p with h | ⟨h, -⟩
  · exact h q hq
  · cases h

theorem isWhole_string {s : Text} (hs : s.IsWhole) (ascii : Bool) : (string ascii s).IsWhole := by
  refine Text.IsWhole.append (Text.IsWhole.append (by decide) fun q hq => ?_) (by decide)
  obtain ⟨p, hp, hq⟩ := List.mem_flatMap.mp hq
  rcases isAscii_stringPoint_or ascii p with h | ⟨-, h⟩
  · exact h.isWhole q hq
  · rw [h, List.mem_singleton] at hq
    exact hq ▸ hs p hp

/-! ## Objects -/

/-- A value is written without surrogates. -/
def WritesWhole (l : Layout) (depth : Nat) (v : Value) : Prop :=
  ∃ t, write l depth v = .ok t ∧ t.IsWhole

theorem writesWhole_text (l : Layout) (depth : Nat) {s : Text} (hs : s.IsWhole) :
    WritesWhole l depth (.text s) :=
  ⟨string l.ascii s, by rw [Value.text, write, scalar], isWhole_string hs l.ascii⟩

/-- The fields of an object on a line. -/
theorem exists_mapM_writeFields {depth : Nat} {fields : List (Text × Value)}
    (h : ∀ e ∈ fields, e.1.IsWhole ∧ WritesWhole .line depth e.2) :
    ∃ ts, (writeFields .line depth (fields.map fun (k, v) => (.text k, v))).mapM (·.2) = .ok ts ∧
      ∀ t ∈ ts, t.IsWhole := by
  induction fields with
  | nil => exact ⟨[], by rw [List.map_nil, writeFields]; rfl, nofun⟩
  | cons e fields ih =>
    obtain ⟨⟨hname, t, ht, hwhole⟩, hfields⟩ := List.forall_mem_cons.mp h
    obtain ⟨ts, hts, hall⟩ := ih hfields
    refine ⟨(string false e.1 ++ ": " ++ t) :: ts, ?_, List.forall_mem_cons.mpr ⟨?_, hall⟩⟩
    · rw [List.map_cons, writeFields, List.mapM_cons, hts, ht]
      rfl
    · exact ((isWhole_string hname false).append (by decide)).append hwhole

/-- **An object on a line** is written without surrogates if its fields are. -/
theorem writesWhole_object {depth : Nat} {fields : List (Text × Value)}
    (h : ∀ e ∈ fields, e.1.IsWhole ∧ WritesWhole .line (depth + 1) e.2) :
    WritesWhole .line depth (.object fields) := by
  obtain ⟨ts, hts, hall⟩ := exists_mapM_writeFields h
  have horder : ∀ fs : List (Scalar × Except Failure Text), order .line fs = .ok fs := fun _ => rfl
  refine ⟨Layout.enclose .line depth Point.openBrace Point.closeBrace ts, ?_, ?_⟩
  · rw [Value.object, write, horder]
    exact congrArg (· >>= fun ts => Except.ok
      (Layout.enclose .line depth Point.openBrace Point.closeBrace ts)) hts
  · have hbreak : ∀ depth, (Layout.breakAt .line depth).IsWhole := fun _ => nofun
    rw [Layout.enclose]
    split_ifs
    · decide
    · have hitems := Text.IsWhole.join (show Text.IsWhole ", " by decide) hall
      exact (((Text.IsWhole.append (by decide) (hbreak _)).append hitems).append (hbreak _)).append
        (by decide)

end Json

end HiveScript
