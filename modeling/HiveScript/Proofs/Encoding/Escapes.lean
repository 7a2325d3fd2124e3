import HiveScript.Console.Stream
import HiveScript.Proofs.Encoding.Utf8

/-!
# Escapes of streams

What an encoding does not have is written as an escape in ASCII, and all encodings that have names
have ASCII, up to the percent sign.

* **`Encoding.has_of_named`**: encodings that have names have all basic points.
* `Encoding.escaped_of_basic`: texts of such points have no escapes.
* **`Encoding.encode_escaped`**: what is written is the text with its escapes.
* `Encoding.Reader`: what reads the octets of an encoding; `Reader.charset`, `Reader.utf8`.
-/

namespace HiveScript

/-! ## Points that all encodings have -/

theorem Point.isBasic_escape (p : Point) : p.escape.IsBasic := by
  rw [escape]
  split_ifs
  all_goals
    exact Text.IsBasic.append (by decide) (Numeral.isBasic_padded (by decide) (by decide) _ _)

theorem Point.lineFeed_notMem_escape (p : Point) : lineFeed ∉ p.escape := by
  have hdigit : ∀ d < 16, lineFeed ≠ ofDigit d := by decide
  have hdigits : ∀ width n, lineFeed ∉ Numeral.padded 16 width n := by
    intro width n hmem
    obtain ⟨d, hd, heq⟩ := Numeral.exists_of_mem_padded (by decide) hmem
    exact hdigit d hd heq
  rw [escape]
  split_ifs
  all_goals exact fun h => (List.mem_append.mp h).elim (by decide) (hdigits _ _)

/-- A number whose bits are those at the numbers of the points. -/
def Charset.bits (ps : List (Option Point)) : Nat :=
  ps.foldr (fun q bits => (q.elim 0 fun p => 2 ^ p.val) ||| bits) 0

theorem Charset.mem_of_testBit_bits {p : Point} {ps : List (Option Point)}
    (h : (bits ps).testBit p.val = true) : some p ∈ ps := by
  induction ps with
  | nil => cases (Nat.zero_testBit p.val).symm.trans h
  | cons q ps ih =>
    rw [bits, List.foldr_cons, Nat.testBit_or, Bool.or_eq_true] at h
    rcases h with h | h
    · cases q with
      | none => cases (Nat.zero_testBit p.val).symm.trans h
      | some q =>
        rw [Option.elim_some, Nat.testBit_two_pow] at h
        rw [Fin.ext (of_decide_eq_true h)]
        exact List.mem_cons_self
    · exact List.mem_cons_of_mem _ (ih h)

namespace Encoding

/-- The points of a set begin with ASCII, or have all basic points among them. The first is quicker
to see where it holds. -/
def keepsBasic : Encoding → Bool
  | charset c =>
    c.points.take 0x80 = Charset.firstPoints 0x80 ||
      (Charset.bits c.points ||| 2 ^ 0x25) % 2 ^ 0x80 = 2 ^ 0x80 - 1
  | e => (List.range 0x80).all fun n => n = 0x25 || e.has (Point.ofNat n)

theorem keepsBasic_listings : ∀ l ∈ listings, l.encoding.keepsBasic = true := by
  decide +kernel

theorem has_charset {c : Charset} {p : Point} (hp : some p ∈ c.points) :
    (charset c).has p = true := by
  rw [has, octets?, Option.isSome_map, Charset.octet?, Option.isSome_map, List.findIdx?_isSome,
    List.any_eq_true]
  exact ⟨some p, hp, decide_eq_true rfl⟩

theorem has_of_keepsBasic {e : Encoding} (he : e.keepsBasic = true) {p : Point} (hp : p.IsBasic) :
    e.has p = true := by
  cases e with
  | charset c =>
    refine has_charset ?_
    rw [keepsBasic, Bool.or_eq_true] at he
    rcases he with he | he
    · have hmem : some p ∈ c.points.take 0x80 := by
        rw [of_decide_eq_true he]
        exact List.mem_map.mpr ⟨p.val, List.mem_range.mpr hp.1, congrArg some (Point.ofNat_val p)⟩
      exact List.mem_of_mem_take hmem
    · have hbit := congrArg (Nat.testBit · p.val) (of_decide_eq_true he)
      rw [Nat.testBit_mod_two_pow, Nat.testBit_or, Nat.testBit_two_pow, decide_eq_true hp.1,
        decide_eq_false (Ne.symm hp.2), Bool.or_false, Bool.true_and, Nat.testBit_two_pow_sub_one,
        decide_eq_true hp.1] at hbit
      exact Charset.mem_of_testBit_bits hbit
  | _ =>
    have hp' := List.all_eq_true.mp he p.val (List.mem_range.mpr hp.1)
    rw [decide_eq_false hp.2, Point.ofNat_val] at hp'
    exact hp'

/-- **Encodings that have names have all basic points.** -/
theorem has_of_named {name : Text} {e : Encoding} (he : named name = .ok e) {p : Point}
    (hp : p.IsBasic) : e.has p = true := by
  refine has_of_keepsBasic ?_ hp
  rw [named] at he
  split at he
  · cases he
  split_ifs at he with hnul hlocale
  · cases he
    exact keepsBasic_listings _ List.mem_cons_self
  all_goals
    cases hname : ofName? name with
    | none =>
      rw [hname] at he
      cases he
    | some e' =>
      rw [hname] at he
      cases he
      obtain ⟨l, hl, rfl⟩ := Option.map_eq_some_iff.mp hname
      exact keepsBasic_listings l (List.mem_of_find?_eq_some hl)

/-! ## Texts with their escapes -/

/-- The encoding has all basic points. -/
def HasBasic (e : Encoding) : Prop := ∀ p : Point, p.IsBasic → e.has p = true

variable {e : Encoding}

theorem escaped_cons (p : Point) (s : Text) :
    e.escaped (p :: s) = (if e.has p then [p] else p.escape) ++ e.escaped s := List.flatMap_cons

@[simp]
theorem escaped_append (s t : Text) : e.escaped (s ++ t) = e.escaped s ++ e.escaped t :=
  List.flatMap_append

theorem escaped_of_has {s : Text} (hs : ∀ p ∈ s, e.has p = true) : e.escaped s = s := by
  have hsame : ∀ p ∈ s, (if e.has p then [p] else p.escape) = [p] := fun p hp => if_pos (hs p hp)
  rw [escaped, List.flatMap_congr hsame, List.flatMap_singleton']

theorem escaped_of_basic (he : e.HasBasic) {s : Text} (hs : s.IsBasic) : e.escaped s = s :=
  escaped_of_has fun p hp => he p (hs p hp)

theorem has_of_mem_escaped (he : e.HasBasic) {s : Text} {q : Point} (hq : q ∈ e.escaped s) :
    e.has q = true := by
  obtain ⟨p, -, hq⟩ := List.mem_flatMap.mp hq
  split_ifs at hq with hp
  · rwa [List.mem_singleton.mp hq]
  · exact he q (p.isBasic_escape q hq)

theorem lineFeed_notMem_escaped {s : Text} (hs : Point.lineFeed ∉ s) :
    Point.lineFeed ∉ e.escaped s := by
  intro hmem
  obtain ⟨p, hp, hmem⟩ := List.mem_flatMap.mp hmem
  split_ifs at hmem
  · exact hs (List.mem_singleton.mp hmem ▸ hp)
  · exact p.lineFeed_notMem_escape hmem

theorem escaped_flatMap (ts : List α) (f : α → Text) :
    e.escaped (ts.flatMap f) = ts.flatMap fun t => e.escaped (f t) := List.flatMap_assoc

theorem escaped_eq_nil {s : Text} : e.escaped s = [] ↔ s = [] := by
  cases s with
  | nil => exact iff_of_true rfl rfl
  | cons p s =>
    rw [escaped_cons, Point.escape]
    refine iff_of_false ?_ nofun
    split_ifs <;> exact nofun

/-- **What is written is the text with its escapes.** -/
theorem encode_escaped (he : e.HasBasic) (s : Text) : e.encode (e.escaped s) = e.encode s := by
  have hempty : (e.escaped s).isEmpty = s.isEmpty := by
    rw [Bool.eq_iff_iff, List.isEmpty_iff, List.isEmpty_iff, escaped_eq_nil]
  rw [encode, hempty, escaped_of_has fun p hp => has_of_mem_escaped he hp, encode]

/-! ## Readers -/

/-- What reads the octets of an encoding. A text of points that the encoding has, and that it keeps
apart from others, is read as it was written. -/
structure Reader (e : Encoding) where
  read : Bytes → Text
  keeps : Point → Prop
  read_encode : ∀ s : Text, (∀ p ∈ s, e.has p = true ∧ keeps p) → read (e.encode s) = s

/-- What is read is the text with its escapes. -/
theorem Reader.read_encode_eq (reader : e.Reader) (he : e.HasBasic) {s : Text}
    (hs : ∀ p ∈ e.escaped s, reader.keeps p) : reader.read (e.encode s) = e.escaped s := by
  rw [← encode_escaped he]
  exact reader.read_encode _ fun p hp => ⟨has_of_mem_escaped he hp, hs p hp⟩

theorem encode_charset (c : Charset) (s : Text) :
    (charset c).encode s =
      ((charset c).escaped s).flatMap fun p => ((c.octet? p).map ([·])).getD [] := by
  cases s <;> rfl

/-- The reader of a set. -/
def Reader.charset (c : Charset) (hc : c.points.length ≤ 0x100) : (charset c).Reader where
  read bs := bs.map fun b => ((c.points[b.toNat]?).join).getD Point.replacement
  keeps _ := True
  read_encode s hs := by
    rw [encode_charset, escaped_of_has fun p hp => (hs p hp).1]
    induction s with
    | nil => rfl
    | cons p s ih =>
      obtain ⟨hp, hs⟩ := List.forall_mem_cons.mp hs
      rw [has, octets?, Option.isSome_map] at hp
      obtain ⟨b, hb⟩ := Option.isSome_iff_exists.mp hp.1
      have hread : ((c.points[b.toNat]?).join).getD Point.replacement = p := by
        obtain ⟨i, hi, rfl⟩ := Option.map_eq_some_iff.mp hb
        obtain ⟨hlt, hpoint, -⟩ := List.findIdx?_eq_some_iff_getElem.mp hi
        rw [UInt8.toNat_ofNat_of_lt' (lt_of_lt_of_le hlt hc), List.getElem?_eq_getElem hlt,
          of_decide_eq_true hpoint]
        rfl
      rw [List.flatMap_cons, hb, List.map_append, ih hs]
      exact congrArg (· :: s) hread

/-- The reader of UTF-8 without a mark. -/
def Reader.utf8 : (utf8 false).Reader where
  read bs := (Utf8.decode? false bs).getD []
  keeps _ := True
  read_encode s hs := by
    have hwhole : s.IsWhole := by
      intro p hp
      have hhas := (hs p hp).1
      rw [has, octets?] at hhas
      by_contra hsurrogate
      rw [if_pos (Bool.eq_true_of_not_eq_false hsurrogate)] at hhas
      cases hhas
    have hoctets : ∀ p ∈ s, (octets? (.utf8 false) p).getD [] = Utf8.octets p := by
      intro p hp
      rw [octets?, hwhole p hp]
      rfl
    have hencode : (Encoding.utf8 false).encode s = Utf8.encode s := by
      rw [encode, escaped_of_has fun p hp => (hs p hp).1]
      cases s with
      | nil => rfl
      | cons p s => exact List.flatMap_congr hoctets
    rw [hencode, Utf8.decode?_encode false (.inr hwhole), Option.getD_some]

end Encoding

end HiveScript
