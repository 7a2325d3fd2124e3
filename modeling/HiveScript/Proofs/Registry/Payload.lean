import HiveScript.Proofs.Encoding.Utf16
import HiveScript.Proofs.Text.Hexadecimal
import HiveScript.Registry.Datum
import Mathlib.Data.Set.Function

/-!
# Payloads there and back

* `numeral`, `write`: octets as numerals of two digits, with commas between them.
* `numbers_write`: the numbers of a written list.
* **`text_write`**: the text of written octets is the one that they decode to.
* `filter_write`: without its commas a list is the run of its numerals.
* **`pairText_inverse`**: octets in pairs are all the texts without pairs of surrogates.
-/

namespace HiveScript.Payload

/-! ## Octets -/

/-- The numeral of an octet. -/
def numeral (capital : Bool) (b : UInt8) : Text := Numeral.hexDigits capital 2 b.toNat

def write (capital : Bool) (bs : Bytes) : Text :=
  Text.join [Point.ofChar ','] (bs.map (numeral capital))

variable (capital : Bool)

theorem isHexNumeral_numeral (b : UInt8) : Numeral.IsHexNumeral (numeral capital b) :=
  Numeral.isHexNumeral_hexDigits capital 1 b.toNat

theorem comma_not_mem_numeral (b : UInt8) : Point.ofChar ',' ∉ numeral capital b := by
  intro h
  exact absurd ((isHexNumeral_numeral capital b).2 _ h) (by decide)

theorem tokenValue_numeral (b : UInt8) : tokenValue (numeral capital b) = b.toNat := by
  have hw := isHexNumeral_numeral capital b
  have ht : (numeral capital b).trim = numeral capital b :=
    Text.trimBy_eq_self
      (fun p hp => Point.isBlank_of_isHexDigit (hw.2 p (List.mem_of_mem_head? hp)))
      fun p hp => Point.isBlank_of_isHexDigit (hw.2 p (List.mem_of_mem_getLast? hp))
  have hv : Numeral.hexValue (numeral capital b) = b.toNat :=
    Numeral.hexValue_hexDigits capital b.toNat_lt
  rw [tokenValue, ht, Numeral.read_hexNumeral hw, hv]

theorem lowOctet_toNat (b : UInt8) : lowOctet b.toNat = b := by
  have h : ((b.toNat : Int) % 0x100).toNat = b.toNat := by
    have := b.toNat_lt
    omega
  rw [lowOctet, h, UInt8.ofNat_toNat]

theorem map_lowOctet_toNat (bs : Bytes) : (bs.map fun b => (b.toNat : Int)).map lowOctet = bs := by
  have hlow : (lowOctet ∘ fun b : UInt8 => (b.toNat : Int)) = id := funext lowOctet_toNat
  rw [List.map_map, hlow, List.map_id]

/-! ## Lists of octets -/

variable {bs : Bytes}

theorem numbers_write (hbs : bs ≠ []) :
    numbers (write capital bs) = bs.map fun b => (b.toNat : Int) := by
  have hne : bs.map (numeral capital) ≠ [] := by simpa using hbs
  have hsep : ∀ w ∈ bs.map (numeral capital), ∀ p ∈ w, decide (p = Point.ofChar ',') = false := by
    intro w hw p hp
    obtain ⟨b, -, rfl⟩ := List.mem_map.mp hw
    rw [decide_eq_false_iff_not]
    rintro rfl
    exact comma_not_mem_numeral capital b hp
  rw [numbers, write, Text.fields_join (by simp) hne hsep, List.map_map]
  exact List.map_congr_left fun b _ => tokenValue_numeral capital b

/-- **The text of written octets is the one that they decode to.** -/
theorem text_write (bs : Bytes) : text (write capital bs) = Utf16.decode bs := by
  by_cases hbs : bs = []
  · rw [hbs]
    rfl
  · rw [text, pairText, numbers_write capital hbs, map_lowOctet_toNat]

theorem filter_write (bs : Bytes) :
    (write capital bs).filter (· ≠ Point.ofChar ',') = bs.flatMap (numeral capital) := by
  have hsep : ∀ w ∈ bs.map (numeral capital), Point.ofChar ',' ∉ w := by
    intro w hw
    obtain ⟨b, -, rfl⟩ := List.mem_map.mp hw
    exact comma_not_mem_numeral capital b
  rw [write, Text.filter_join hsep, List.flatMap_def]

theorem mem_write {p : Point} (hp : p ∈ write capital bs) :
    p = Point.ofChar ',' ∨ p.isHexDigit = true := by
  refine (Text.mem_join hp).imp_right ?_
  rintro ⟨w, hw, hpw⟩
  obtain ⟨b, -, rfl⟩ := List.mem_map.mp hw
  exact (isHexNumeral_numeral capital b).2 p hpw

/-! ## Numbers in pairs -/

/-- Octets as numbers, all of them in pairs. -/
def OctetPairs : Set (List Int) := {ns | Even ns.length ∧ ∀ n ∈ ns, 0 ≤ n ∧ n < 0x100}

/-- The numbers that a text is written in, the low octet of each unit first. -/
def pairNumbers (s : Text) : List Int :=
  (Utf16.encode .lowFirst s).map fun b => (b.toNat : Int)

theorem pairNumbers_mem_octetPairs (s : Text) : pairNumbers s ∈ OctetPairs := by
  refine ⟨?_, fun n hn => ?_⟩
  · rw [pairNumbers, List.length_map]
    exact Utf16.even_length_encode .lowFirst s
  · obtain ⟨b, -, rfl⟩ := List.mem_map.mp hn
    have := b.toNat_lt
    omega

/-- Octets are the low octets of themselves. -/
theorem toNat_lowOctet {n : Int} (hn : 0 ≤ n ∧ n < 0x100) : ((lowOctet n).toNat : Int) = n := by
  have hlt : (n % 0x100).toNat < 2 ^ 8 := by omega
  rw [lowOctet, UInt8.toNat_ofNat_of_lt' hlt]
  omega

theorem map_toNat_lowOctet {ns : List Int} (hns : ns ∈ OctetPairs) :
    (ns.map lowOctet).map (fun b => (b.toNat : Int)) = ns := by
  rw [List.map_map]
  exact (List.map_congr_left fun n hn => toNat_lowOctet (hns.2 n hn)).trans (List.map_id ns)

theorem lowOctet_emod (n : Int) : lowOctet (n % 0x100) = lowOctet n := by
  rw [lowOctet, Int.emod_emod, lowOctet]

theorem pairNumbers_pairText {ns : List Int} (hns : ns ∈ OctetPairs) :
    pairNumbers (pairText ns) = ns := by
  have heven : Even (ns.map lowOctet).length := by
    rw [List.length_map]
    exact hns.1
  rw [pairNumbers, pairText, Utf16.encode_decode heven, map_toNat_lowOctet hns]

theorem pairText_pairNumbers {s : Text} (hs : Utf16.Unpaired s) :
    pairText (pairNumbers s) = s := by
  rw [pairText, pairNumbers, map_lowOctet_toNat, Utf16.decode_encode hs]

/-- **Octets in pairs are all the texts without pairs of surrogates**: each list of them is one
text, and each such text one list. Of other numbers only the low octets count, and of a list only
what stands in pairs. -/
theorem pairText_inverse :
    (∀ ns, pairText (ns.map (· % 0x100)) = pairText ns) ∧
      (∀ ns, pairText (ns.take (ns.length / 2 * 2)) = pairText ns) ∧
      Set.BijOn pairText OctetPairs {s | Utf16.Unpaired s} ∧
      Set.InvOn pairNumbers pairText OctetPairs {s | Utf16.Unpaired s} := by
  have hinverse : Set.InvOn pairNumbers pairText OctetPairs {s | Utf16.Unpaired s} :=
    ⟨fun _ hns => pairNumbers_pairText hns, fun _ hs => pairText_pairNumbers hs⟩
  refine ⟨fun ns => ?_, fun ns => ?_, hinverse.bijOn ?_ ?_, hinverse⟩
  · have hlow : (lowOctet ∘ fun n => n % 0x100) = lowOctet := funext lowOctet_emod
    rw [pairText, List.map_map, hlow, pairText]
  · have hpaired := Utf16.decode_take (ns.map lowOctet)
    rw [List.length_map, ← List.map_take] at hpaired
    exact hpaired
  · exact fun ns _ => Utf16.unpaired_decode _
  · exact fun s _ => pairNumbers_mem_octetPairs s

end HiveScript.Payload
