import HiveScript.Proofs.Encoding.Utf16
import HiveScript.Proofs.Text.Ascii

/-!
# UTF-8 there and back

A character is a lead octet, which tells how many octets follow and what the first of them may be,
and octets of six bits each.

* `lead?_ofNat`: lead octets by their numbers.
* `decodeFrom_lead`, `decodeFrom_more`, `decodeFrom_last`: reading one octet.
* `decodeFrom_octets_append`: reading one point. Surrogates need the general form.
* **`decode?_encode`**: reading a whole text.
-/

namespace HiveScript.Utf8

/-! ## Octets as numbers -/

theorem lead?_ofNat (general : Bool) {k : Nat} (hk : k < 0x100) : lead? general (UInt8.ofNat k) =
    if 0xC2 ≤ k ∧ k ≤ 0xDF then some ⟨0x80, 0xBF, 0, k - 0xC0⟩
    else if k = 0xE0 then some ⟨0xA0, 0xBF, 1, 0⟩
    else if k = 0xED ∧ !general then some ⟨0x80, 0x9F, 1, 0xD⟩
    else if 0xE1 ≤ k ∧ k ≤ 0xEF then some ⟨0x80, 0xBF, 1, k - 0xE0⟩
    else if k = 0xF0 then some ⟨0x90, 0xBF, 2, 0⟩
    else if 0xF1 ≤ k ∧ k ≤ 0xF3 then some ⟨0x80, 0xBF, 2, k - 0xF0⟩
    else if k = 0xF4 then some ⟨0x80, 0x8F, 2, 4⟩
    else none := by
  have hval : (UInt8.ofNat k).toNat = k := UInt8.toNat_ofNat_of_lt' hk
  simp only [lead?, UInt8.le_iff_toNat_le, ← UInt8.toNat_inj, hval]
  rfl

/-- The six bits of a number from bit `shift` on. -/
def six (shift n : Nat) : Nat := n >>> shift % 0x40

theorem six_lt (shift n : Nat) : six shift n < 0x40 := Nat.mod_lt _ (by decide)

theorem toNat_tailOctet (shift n : Nat) : (tailOctet shift n).toNat = 0x80 + six shift n := by
  have hlt : 0x80 + six shift n < 2 ^ 8 := by
    have := six_lt shift n
    omega
  exact UInt8.toNat_ofNat_of_lt' hlt

variable (general : Bool) (bs : Bytes)

/-! ## Reading octet by octet -/

theorem decodeFrom_lead {k : Nat} (hk : k < 0x100) (hlow : 0x80 ≤ k) {lead : Lead}
    (hlead : lead? general (UInt8.ofNat k) = some lead) :
    decodeFrom general .between (UInt8.ofNat k :: bs) = decodeFrom general (.inside lead) bs := by
  have hge : ¬ UInt8.ofNat k < 0x80 := by
    rw [UInt8.lt_iff_toNat_lt, UInt8.toNat_ofNat_of_lt' hk]
    exact not_lt.mpr hlow
  rw [decodeFrom, step, if_neg hge, hlead]
  rfl

/-- An octet with the six bits of `n` from bit `shift` on may come next. -/
def Continues (low high : UInt8) (shift n : Nat) : Prop :=
  low.toNat ≤ 0x80 + six shift n ∧ 0x80 + six shift n ≤ high.toNat

theorem continues (shift n : Nat) : Continues 0x80 0xBF shift n := by
  have hlt := six_lt shift n
  exact ⟨Nat.le_add_right _ _, Nat.add_le_add_left (Nat.le_of_lt_succ hlt) 0x80⟩

variable {low high : UInt8} {more bits shift n : Nat}

theorem step_tailOctet (h : Continues low high shift n) :
    step general (.inside ⟨low, high, more, bits⟩) (tailOctet shift n) =
      match more with
      | 0 => ([some (Point.ofNat (bits * 0x40 + six shift n))], .between)
      | more + 1 => ([], .inside ⟨0x80, 0xBF, more, bits * 0x40 + six shift n⟩) := by
  have hrange : low ≤ tailOctet shift n ∧ tailOctet shift n ≤ high := by
    rw [UInt8.le_iff_toNat_le, UInt8.le_iff_toNat_le, toNat_tailOctet]
    exact h
  have hbits : (tailOctet shift n).toNat - 0x80 = six shift n := by
    rw [toNat_tailOctet, Nat.add_sub_cancel_left]
  rw [← hbits]
  exact if_pos hrange

theorem decodeFrom_last (h : Continues low high shift n) :
    decodeFrom general (.inside ⟨low, high, 0, bits⟩) (tailOctet shift n :: bs) =
      some (Point.ofNat (bits * 0x40 + six shift n)) :: decodeFrom general .between bs := by
  rw [decodeFrom, step_tailOctet general h]
  rfl

theorem decodeFrom_more (h : Continues low high shift n) :
    decodeFrom general (.inside ⟨low, high, more + 1, bits⟩) (tailOctet shift n :: bs) =
      decodeFrom general (.inside ⟨0x80, 0xBF, more, bits * 0x40 + six shift n⟩) bs := by
  rw [decodeFrom, step_tailOctet general h]
  rfl

/-! ## Points -/

theorem six_eq (shift n : Nat) : six shift n = n / 2 ^ shift % 0x40 := by
  rw [six, Nat.shiftRight_eq_div_pow]

variable {p : Point}

theorem decodeFrom_one (hp : p.val < 0x80) :
    decodeFrom general .between (octets p ++ bs) = some p :: decodeFrom general .between bs := by
  have hval : (UInt8.ofNat p.val).toNat = p.val :=
    UInt8.toNat_ofNat_of_lt' (Nat.lt_trans hp (by decide))
  have hlt : UInt8.ofNat p.val < 0x80 := by
    rw [UInt8.lt_iff_toNat_lt, hval]
    exact hp
  rw [octets, if_pos hp, List.singleton_append, decodeFrom, step, if_pos hlt, hval,
    Point.ofNat_val]
  rfl

theorem decodeFrom_two (hlow : 0x80 ≤ p.val) (hhigh : p.val < 0x800) :
    decodeFrom general .between (octets p ++ bs) = some p :: decodeFrom general .between bs := by
  have hlead : lead? general (UInt8.ofNat (0xC0 + p.val >>> 6)) =
      some ⟨0x80, 0xBF, 0, p.val >>> 6⟩ := by
    rw [Nat.shiftRight_eq_div_pow, lead?_ofNat general (by omega), if_pos (by omega),
      Nat.add_sub_cancel_left]
  have hbits : p.val >>> 6 * 0x40 + six 0 p.val = p.val := by
    rw [Nat.shiftRight_eq_div_pow, six_eq]
    omega
  have hshift : p.val >>> 6 < 0x20 := by
    rw [Nat.shiftRight_eq_div_pow]
    omega
  rw [octets, if_neg (by omega), if_pos hhigh, List.cons_append, List.singleton_append,
    decodeFrom_lead general _ (by omega) (by omega) hlead,
    decodeFrom_last general bs (continues _ _), hbits, Point.ofNat_val]

/-- What the lead octet of three asks for. -/
theorem exists_lead?_three (hlow : 0x800 ≤ p.val) (hhigh : p.val < 0x10000)
    (hp : general = true ∨ p.isSurrogate = false) :
    ∃ low high, lead? general (UInt8.ofNat (0xE0 + p.val / 2 ^ 12)) =
      some ⟨low, high, 1, p.val / 2 ^ 12⟩ ∧ Continues low high 6 p.val := by
  have hsix := six_eq 6 p.val
  rw [lead?_ofNat general (by omega), if_neg (by omega)]
  by_cases hE0 : 0xE0 + p.val / 2 ^ 12 = 0xE0
  · have hsecond : 0x20 ≤ six 6 p.val := by omega
    rw [if_pos hE0, show p.val / 2 ^ 12 = 0 by omega]
    exact ⟨_, _, rfl, Nat.add_le_add_left hsecond 0x80, (continues 6 p.val).2⟩
  rw [if_neg hE0]
  by_cases hED : 0xE0 + p.val / 2 ^ 12 = 0xED ∧ !general
  · have hwhole : p.isSurrogate = false :=
      hp.resolve_left fun h => absurd hED.2 (by rw [h]; exact Bool.noConfusion)
    have hsecond : six 6 p.val ≤ 0x1F := by
      simp only [Point.isSurrogate, Bool.and_eq_false_iff, decide_eq_false_iff_not] at hwhole
      omega
    rw [if_pos hED, show p.val / 2 ^ 12 = 0xD by omega]
    exact ⟨_, _, rfl, (continues 6 p.val).1, Nat.add_le_add_left hsecond 0x80⟩
  · rw [if_neg hED, if_pos (by omega), Nat.add_sub_cancel_left]
    exact ⟨_, _, rfl, continues 6 p.val⟩

/-- What the lead octet of four asks for. -/
theorem exists_lead?_four (hlow : 0x10000 ≤ p.val) :
    ∃ low high, lead? general (UInt8.ofNat (0xF0 + p.val / 2 ^ 18)) =
      some ⟨low, high, 2, p.val / 2 ^ 18⟩ ∧ Continues low high 12 p.val := by
  have hlt := p.isLt
  have hsix := six_eq 12 p.val
  rw [lead?_ofNat general (by omega), if_neg (by omega), if_neg (by omega), if_neg (by omega),
    if_neg (by omega)]
  by_cases hF0 : 0xF0 + p.val / 2 ^ 18 = 0xF0
  · have hsecond : 0x10 ≤ six 12 p.val := by omega
    rw [if_pos hF0, show p.val / 2 ^ 18 = 0 by omega]
    exact ⟨_, _, rfl, Nat.add_le_add_left hsecond 0x80, (continues 12 p.val).2⟩
  rw [if_neg hF0]
  by_cases hF4 : 0xF0 + p.val / 2 ^ 18 = 0xF4
  · have hsecond : six 12 p.val ≤ 0x0F := by omega
    rw [if_neg (by omega), if_pos hF4, show p.val / 2 ^ 18 = 4 by omega]
    exact ⟨_, _, rfl, (continues 12 p.val).1, Nat.add_le_add_left hsecond 0x80⟩
  · rw [if_pos (by omega), Nat.add_sub_cancel_left]
    exact ⟨_, _, rfl, continues 12 p.val⟩

/-- **A point is read from its octets**, a surrogate in the general form only. -/
theorem decodeFrom_octets_append (hp : general = true ∨ p.isSurrogate = false) :
    decodeFrom general .between (octets p ++ bs) = some p :: decodeFrom general .between bs := by
  have hlt := p.isLt
  by_cases h1 : p.val < 0x80
  · exact decodeFrom_one general bs h1
  by_cases h2 : p.val < 0x800
  · exact decodeFrom_two general bs (not_lt.mp h1) h2
  rw [octets, if_neg h1, if_neg h2, Nat.shiftRight_eq_div_pow, Nat.shiftRight_eq_div_pow]
  by_cases h3 : p.val < 0x10000
  · obtain ⟨low, high, hlead, hcontinues⟩ := exists_lead?_three general (not_lt.mp h2) h3 hp
    have hbits : (p.val / 2 ^ 12 * 0x40 + six 6 p.val) * 0x40 + six 0 p.val = p.val := by
      rw [six_eq, six_eq]
      omega
    rw [if_pos h3, List.cons_append, decodeFrom_lead general _ (by omega) (by omega) hlead,
      List.cons_append, decodeFrom_more general _ hcontinues, List.singleton_append,
      decodeFrom_last general _ (continues _ _), hbits, Point.ofNat_val]
  · obtain ⟨low, high, hlead, hcontinues⟩ := exists_lead?_four general (not_lt.mp h3)
    have hbits : ((p.val / 2 ^ 18 * 0x40 + six 12 p.val) * 0x40 + six 6 p.val) * 0x40 +
        six 0 p.val = p.val := by
      rw [six_eq, six_eq, six_eq]
      omega
    rw [if_neg h3, List.cons_append, decodeFrom_lead general _ (by omega) (by omega) hlead,
      List.cons_append, decodeFrom_more general _ hcontinues, List.cons_append,
      decodeFrom_more general _ (continues _ _), List.singleton_append,
      decodeFrom_last general _ (continues _ _), hbits, Point.ofNat_val]

/-! ## Texts -/

theorem decode_encode {s : Text} (hs : general = true ∨ s.IsWhole) :
    decode general (encode s) = s.map some := by
  induction s with
  | nil => rfl
  | cons p s ih =>
    have hp : general = true ∨ p.isSurrogate = false := hs.imp_right fun h => h p List.mem_cons_self
    have hs : general = true ∨ Text.IsWhole s :=
      hs.imp_right fun h q hq => h q (List.mem_cons_of_mem p hq)
    rw [decode, encode, List.flatMap_cons, decodeFrom_octets_append general _ hp]
    exact congrArg (some p :: ·) (ih hs)

/-- **A text is read as it was written**, one with surrogates in the general form only. -/
theorem decode?_encode {s : Text} (hs : general = true ∨ s.IsWhole) :
    decode? general (encode s) = some s := by
  have hall : (s.map some).mapM id = s.mapM some := List.mapM_map
  have hpure : s.mapM some = some (s.map id) := List.mapM_pure
  rw [decode?, decode_encode general hs, hall, hpure, List.map_id]

theorem decodeLossy_encode {s : Text} (hs : s.IsWhole) : decodeLossy (encode s) = s := by
  rw [decodeLossy, decode_encode false (.inr hs), List.map_map]
  exact List.map_id s

/-! ## Lengths -/

/-- The number of characters that have begun and are not complete. -/
def State.pending : State → Nat
  | .between => 0
  | .inside _ => 1

theorem length_step_le (state : State) (b : UInt8) :
    (step general state b).1.length + (step general state b).2.pending ≤ state.pending + 1 := by
  have hfresh : (step general .between b).1.length + (step general .between b).2.pending ≤ 1 := by
    rw [step]
    split_ifs
    · exact Nat.le_refl 1
    · cases lead? general b <;> exact Nat.le_refl 1
  cases state with
  | between => exact hfresh
  | inside lead =>
    by_cases hnext : lead.low ≤ b ∧ b ≤ lead.high
    · rw [step, if_pos hnext]
      cases lead.more <;> exact Nat.le_succ 1
    · have hbroken : step general (.inside lead) b =
          (none :: (step general .between b).1, (step general .between b).2) := if_neg hnext
      rw [hbroken, List.length_cons, State.pending]
      dsimp only
      omega

theorem length_decodeFrom_le (state : State) :
    (decodeFrom general state bs).length ≤ bs.length + state.pending := by
  induction bs generalizing state with
  | nil => cases state <;> exact Nat.le_refl _
  | cons b bs ih =>
    have hstep := length_step_le general state b
    have hrest := ih (step general state b).2
    rw [decodeFrom, List.length_append, List.length_cons]
    omega

theorem length_decode_le : (decode general bs).length ≤ bs.length :=
  length_decodeFrom_le general bs .between

end HiveScript.Utf8
