import HiveScript.Proofs.Text.Decimal
import HiveScript.Proofs.Text.Parts
import HiveScript.Text.Line

/-!
# Texts of plain points

Texts of ASCII alone, and texts without surrogates, which every encoding of Unicode takes. Among the
former are those without percent signs, which every encoding takes.

* `Text.IsBasic`, `Text.IsAscii`, `Text.IsWhole`; `IsBasic.isAscii`, **`IsAscii.isWhole`**.
* `forall_mem_join`, `forall_mem_brokenLines`: what joined texts and broken lines are made of.
* `Numeral.isBasic_padded`: numerals are basic.
-/

namespace HiveScript

/-- The point is of ASCII and is not the percent sign. -/
def Point.IsBasic (p : Point) : Prop := p.val < 0x80 ∧ p.val ≠ 0x25

instance (p : Point) : Decidable p.IsBasic := inferInstanceAs (Decidable (_ ∧ _))

namespace Text

/-- All points are basic. -/
def IsBasic (s : Text) : Prop := ∀ p ∈ s, p.IsBasic

/-- All points are of ASCII. -/
def IsAscii (s : Text) : Prop := ∀ p ∈ s, p.val < 0x80

/-- No point is a surrogate. -/
def IsWhole (s : Text) : Prop := ∀ p ∈ s, p.isSurrogate = false

-- The search for instances would go through all points instead of those of the text.
instance (s : Text) : Decidable s.IsBasic :=
  decidable_of_iff (s.all (decide <| Point.IsBasic ·) = true) (by simp [IsBasic])

instance (s : Text) : Decidable s.IsAscii :=
  decidable_of_iff (s.all (·.val < 0x80) = true) (by simp [IsAscii])

instance (s : Text) : Decidable s.IsWhole :=
  decidable_of_iff (s.all (!·.isSurrogate) = true) (by simp [IsWhole])

variable {s t : Text}

theorem IsBasic.isAscii (h : s.IsBasic) : s.IsAscii := fun p hp => (h p hp).1

theorem IsAscii.isWhole (h : s.IsAscii) : s.IsWhole := by
  intro p hp
  have hlt := h p hp
  simp only [Point.isSurrogate, Bool.and_eq_false_iff, decide_eq_false_iff_not]
  omega

theorem IsBasic.append (hs : s.IsBasic) (ht : t.IsBasic) : (s ++ t).IsBasic :=
  List.forall_mem_append.mpr ⟨hs, ht⟩

theorem IsAscii.append (hs : s.IsAscii) (ht : t.IsAscii) : (s ++ t).IsAscii :=
  List.forall_mem_append.mpr ⟨hs, ht⟩

theorem IsWhole.append (hs : s.IsWhole) (ht : t.IsWhole) : (s ++ t).IsWhole :=
  List.forall_mem_append.mpr ⟨hs, ht⟩

theorem IsBasic.padLeft (hs : s.IsBasic) {p : Point} (hp : p.IsBasic) (width : Nat) :
    (s.padLeft width p).IsBasic :=
  IsBasic.append (fun _ hq => List.eq_of_mem_replicate hq ▸ hp) hs

theorem IsWhole.padRight (hs : s.IsWhole) {p : Point} (hp : p.isSurrogate = false) (width : Nat) :
    (s.padRight width p).IsWhole :=
  hs.append fun _ hq => List.eq_of_mem_replicate hq ▸ hp

/-- What a joined text is made of. -/
theorem forall_mem_join {P : Point → Prop} {sep : Text} (hsep : ∀ p ∈ sep, P p) {ws : List Text}
    (hws : ∀ w ∈ ws, ∀ p ∈ w, P p) : ∀ p ∈ join sep ws, P p := by
  induction ws with
  | nil => exact nofun
  | cons w ws ih =>
    obtain ⟨hw, hws⟩ := List.forall_mem_cons.mp hws
    cases ws with
    | nil => exact hw
    | cons v ws =>
      rw [join_cons_cons]
      exact List.forall_mem_append.mpr ⟨List.forall_mem_append.mpr ⟨hw, hsep⟩, ih hws⟩

theorem IsAscii.join {sep : Text} (hsep : sep.IsAscii) {ws : List Text}
    (hws : ∀ w ∈ ws, w.IsAscii) : (Text.join sep ws).IsAscii := forall_mem_join hsep hws

theorem IsWhole.join {sep : Text} (hsep : sep.IsWhole) {ws : List Text}
    (hws : ∀ w ∈ ws, w.IsWhole) : (Text.join sep ws).IsWhole := forall_mem_join hsep hws

theorem forall_mem_consFirst {P : Point → Prop} {p : Point} (hp : P p) {ls : List Text}
    (hls : ∀ l ∈ ls, ∀ q ∈ l, P q) : ∀ l ∈ consFirst p ls, ∀ q ∈ l, P q := by
  cases ls with
  | nil => simpa [consFirst] using hp
  | cons l ls =>
    obtain ⟨hl, hls⟩ := List.forall_mem_cons.mp hls
    exact List.forall_mem_cons.mpr ⟨List.forall_mem_cons.mpr ⟨hp, hl⟩, hls⟩

/-- Broken lines are made of the points of their text. -/
theorem forall_mem_brokenLines {P : Point → Prop} (h : ∀ p ∈ s, P p) :
    ∀ l ∈ s.brokenLines, ∀ p ∈ l, P p := by
  induction s with
  | nil => exact nofun
  | cons p s ih =>
    obtain ⟨hp, hs⟩ := List.forall_mem_cons.mp h
    rw [brokenLines]
    split_ifs
    · exact ih hs
    · exact List.forall_mem_cons.mpr ⟨nofun, ih hs⟩
    · exact forall_mem_consFirst hp (ih hs)

end Text

/-! ## Numerals -/

namespace Numeral

variable {base : Nat}

theorem isBasic_write (hpos : 0 < base) (hbase : base ≤ 16) (n : Nat) : (write base n).IsBasic := by
  have hdigit : ∀ d < 16, (Point.ofDigit d).IsBasic := by decide
  intro p hp
  obtain ⟨d, hd, rfl⟩ := exists_of_mem_write hpos hp
  exact hdigit d (lt_of_lt_of_le hd hbase)

theorem isBasic_decimal (n : Nat) : (decimal n).IsBasic := isBasic_write (by decide) (by decide) n

theorem isBasic_ofInt (i : Int) : (ofInt i).IsBasic := by
  cases i with
  | ofNat n => exact isBasic_decimal n
  | negSucc n => exact List.forall_mem_cons.mpr ⟨by decide, isBasic_decimal (n + 1)⟩

theorem isBasic_padded (hpos : 0 < base) (hbase : base ≤ 16) (width n : Nat) :
    (padded base width n).IsBasic :=
  (isBasic_write hpos hbase n).padLeft (by decide) width

end Numeral

end HiveScript
