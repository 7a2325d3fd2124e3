import HiveScript.Json.Reader
import HiveScript.Proofs.Encoding.Utf16
import HiveScript.Proofs.Json.Writing
import HiveScript.Proofs.Text.Decimal

/-!
# Strings there and back

A reader joins the escapes of two surrogates that stand as a pair. A string of a report has an
escape for each unit of sixteen bits beyond ASCII, so that its reader cannot tell a point beyond the
first plane from the two surrogates that stand for it.

* `exists_codeEscape_eq`: the escape of a unit.
* `PointForm`, `IllForm`: how a point may be written, and what no reader takes.
* `rejoined`: what a text comes back as if some of its points are written by their numbers.
* `readString_point`, `readString_pair`: what one point, and two escapes, are read as.
* **`readString_points`**, **`readString_ill`**: whole strings, in any forms of their points.
* `flatMap_stringPoint`: a string of a report is written unit by unit.
* **`readString_string`**: it is read as its units, of which the pairs are joined.
-/

namespace HiveScript

namespace Json

/-! ## Escapes -/

/-- An escape has four digits, which denote the number of the unit. -/
theorem exists_codeEscape_eq {n : Nat} (hn : n < 0x10000) :
    ∃ a b c d, codeEscape n = [Point.backslash, Point.ofChar 'u', a, b, c, d] ∧
      codeOf? a b c d = some n := by
  have hhex : (Numeral.padded 16 4 n).all Point.isHexDigit = true := by
    have hdigit : ∀ d < 16, (Point.ofDigit d).isHexDigit = true := by decide
    refine List.all_eq_true.mpr fun p hp => ?_
    obtain ⟨d, hd, rfl⟩ := Numeral.exists_of_mem_padded (by decide) hp
    exact hdigit d hd
  have hvalue := Numeral.ofDigits_padded (by decide) (by decide : 16 ≤ 16) 4 n
  have hlength : (Numeral.padded 16 4 n).length = 4 := Numeral.length_padded (by decide) hn
  rw [codeEscape]
  match Numeral.padded 16 4 n, hlength, hhex, hvalue with
  | [a, b, c, d], _, hhex, hvalue =>
    refine ⟨a, b, c, d, rfl, ?_⟩
    rw [codeOf?, if_pos hhex, hvalue]

/-! ## Forms of points -/

/-- How a point is written: as it is, with a backslash and a letter, or by its number. -/
inductive PointForm (p : Point) : Text → Prop
  | plain (quotationMark : p ≠ Point.quotationMark) (backslash : p ≠ Point.backslash)
    (control : ¬ p.val < 0x20) : PointForm p [p]
  | letter {e : Point} (ne_u : e ≠ Point.ofChar 'u') (simple : simpleEscape? e = some p) :
    PointForm p [Point.backslash, e]
  | code (first : p.val < 0x10000) : PointForm p (codeEscape p.val)

/-- What begins as an escape, and is none. -/
def IllForm (t : Text) : Prop :=
  ∃ e more, t = Point.backslash :: e :: more ∧ e ≠ Point.ofChar 'u' ∧ simpleEscape? e = none

theorem not_illForm_codeEscape {n : Nat} (hn : n < 0x10000) : ¬ IllForm (codeEscape n) := by
  rintro ⟨e, more, heq, hne, -⟩
  obtain ⟨a, b, c, d, hescape, -⟩ := exists_codeEscape_eq hn
  rw [hescape] at heq
  cases heq
  exact hne rfl

/-- What a text comes back as if the points that are `coded` are written by their numbers: halves of
pairs that stand one after the other come back as one point, and all else is the same. -/
def rejoined (coded : Point → Bool) : Text → Text
  | [] => []
  | [p] => [p]
  | p :: q :: s =>
    if p.isHighSurrogate && q.isLowSurrogate && coded p && coded q then
      Utf16.joined p q :: rejoined coded s
    else p :: rejoined coded (q :: s)

theorem rejoined_true (us : Text) : rejoined (fun _ => true) us = Utf16.pairUp us := by
  induction us using Utf16.pairUp.induct with
  | case1 => rfl
  | case2 u => rfl
  | case3 u v us hpair ih =>
    rw [rejoined, Bool.and_true, Bool.and_true, if_pos hpair, ih, Utf16.pairUp, if_pos hpair]
  | case4 u v us hpair ih =>
    rw [rejoined, Bool.and_true, Bool.and_true, if_neg hpair, ih, Utf16.pairUp, if_neg hpair]

/-- **A text without pairs of surrogates comes back as it was.** -/
theorem rejoined_of_unpaired (coded : Point → Bool) {s : Text} (hs : Utf16.Unpaired s) :
    rejoined coded s = s := by
  induction s using rejoined.induct coded with
  | case1 => rfl
  | case2 p => rfl
  | case3 p q s hpair ih =>
    simp only [Bool.and_eq_true] at hpair
    exact absurd ⟨hpair.1.1.1, hpair.1.1.2⟩ (List.isChain_cons_cons.mp hs).1
  | case4 p q s hpair ih => rw [rejoined, if_neg hpair, ih hs.tail]

/-! ## Reading points -/

variable {start : Nat} {p q : Point} {t : Text}

theorem readString_quotationMark (start : Nat) (t : Text) :
    readString start (Point.quotationMark :: t) = .ok ([], t) := by
  rw [readString.eq_def]
  rfl

theorem readString_plain (hquote : p ≠ Point.quotationMark) (hbackslash : p ≠ Point.backslash)
    (hcontrol : ¬ p.val < 0x20) : readString start (p :: t) = consRead p (readString start t) := by
  rw [readString.eq_def]
  simp only [if_neg hquote, if_neg hbackslash, if_neg hcontrol]

theorem readString_letter {e : Point} (he : e ≠ Point.ofChar 'u')
    (hsimple : simpleEscape? e = some p) :
    readString start (Point.backslash :: e :: t) = consRead p (readString start t) := by
  rw [readString.eq_def]
  simp only [if_neg he, hsimple]
  rfl

theorem readString_illForm (h : IllForm t) (rest : Text) :
    ∃ e, readString start (t ++ rest) = .error e := by
  obtain ⟨e, more, rfl, he, hsimple⟩ := h
  rw [List.cons_append, List.cons_append, readString.eq_def]
  simp only [if_neg he, hsimple]
  exact ⟨_, rfl⟩

/-- The escape of a point that does not begin a pair. -/
theorem readString_code {a b c d : Point} (hcode : codeOf? a b c d = some p.val) (ht : t ≠ [])
    (hlone : ∀ a b c d more, t = Point.backslash :: Point.ofChar 'u' :: a :: b :: c :: d :: more →
      p.isHighSurrogate = true →
        ∃ low, codeOf? a b c d = some low ∧ (Point.ofNat low).isLowSurrogate = false) :
    readString start (Point.backslash :: Point.ofChar 'u' :: a :: b :: c :: d :: t) =
      consRead p (readString start t) := by
  rw [readString.eq_def]
  simp only [List.isEmpty_iff, ht, if_false, hcode, Point.ofNat_val]
  rw [if_neg (by decide), if_pos trivial, if_pos trivial]
  split
  · split_ifs with hpair
    · obtain ⟨hhigh, -, rfl, rfl⟩ := hpair
      obtain ⟨low, hlow, hne⟩ := hlone _ _ _ _ _ rfl hhigh
      simp only [hlow, hne, Bool.false_eq_true, if_false]
    · rfl
  · rfl

/-- The escapes of a pair. -/
theorem readString_pair (hp : p.val < 0x10000) (hq : q.val < 0x10000)
    (hhigh : p.isHighSurrogate = true) (hlow : q.isLowSurrogate = true) (ht : t ≠ []) :
    readString start (codeEscape p.val ++ (codeEscape q.val ++ t)) =
      consRead (Utf16.joined p q) (readString start t) := by
  have hne : Point.backslash ≠ Point.quotationMark := by decide
  obtain ⟨a, b, c, d, hescape, hcode⟩ := exists_codeEscape_eq hp
  obtain ⟨a', b', c', d', hescape', hcode'⟩ := exists_codeEscape_eq hq
  rw [hescape, hescape', List.cons_append, readString.eq_def]
  simp [hne, hcode, hcode', hhigh, hlow, ht, Point.ofNat_val, Utf16.joined]

/-! ## Whole strings -/

variable {form : Point → Text} {s : Text}

/-- The rest of a string from some point on. -/
def stringEnd (form : Point → Text) (s rest : Text) : Text :=
  s.flatMap form ++ Point.quotationMark :: rest

theorem stringEnd_cons (form : Point → Text) (p : Point) (s rest : Text) :
    stringEnd form (p :: s) rest = form p ++ stringEnd form s rest := by
  rw [stringEnd, List.flatMap_cons, List.append_assoc, stringEnd]

theorem stringEnd_ne_nil (form : Point → Text) (s rest : Text) : stringEnd form s rest ≠ [] := by
  rw [stringEnd]
  exact List.append_ne_nil_of_right_ne_nil _ (List.cons_ne_nil _ _)

/-- **A point that does not begin a pair of escapes stands for itself.** -/
theorem readString_point (hp : PointForm p (form p))
    (hs : ∀ q ∈ s, PointForm q (form q) ∨ IllForm (form q))
    (hlone : ∀ q ∈ s.head?, form p = codeEscape p.val → form q = codeEscape q.val →
      ¬ (p.isHighSurrogate = true ∧ q.isLowSurrogate = true)) (start : Nat) (rest : Text) :
    readString start (stringEnd form (p :: s) rest) =
      consRead p (readString start (stringEnd form s rest)) := by
  rw [stringEnd_cons]
  generalize hform : form p = t at hp
  cases hp with
  | plain hquote hbackslash hcontrol => exact readString_plain hquote hbackslash hcontrol
  | letter hne hsimple => exact readString_letter hne hsimple
  | code hfirst =>
    obtain ⟨a, b, c, d, hescape, hcode⟩ := exists_codeEscape_eq hfirst
    rw [hescape]
    refine readString_code hcode (stringEnd_ne_nil form s rest) fun a b c d more heq hhigh => ?_
    -- The escape that follows is that of the next point.
    cases s with
    | nil => exact absurd (List.cons.inj heq).1 (by decide)
    | cons q s =>
      have hq := hs q List.mem_cons_self
      rw [stringEnd_cons] at heq
      generalize hnext : form q = t' at heq hq
      obtain hq | ⟨e, more', rfl, hne, -⟩ := hq
      · cases hq with
        | plain _ hbackslash _ => exact absurd (List.cons.inj heq).1 hbackslash
        | letter hne _ => exact absurd (List.cons.inj (List.cons.inj heq).2).1 hne
        | code hfirst' =>
          obtain ⟨a', b', c', d', hescape', hcode'⟩ := exists_codeEscape_eq hfirst'
          rw [hescape'] at heq
          cases heq
          refine ⟨q.val, hcode', ?_⟩
          rw [Point.ofNat_val]
          exact Bool.eq_false_iff.mpr fun hlow => hlone q rfl hform hnext ⟨hhigh, hlow⟩
      · exact absurd (List.cons.inj (List.cons.inj heq).2).1 hne

/-- The surrogates that are `coded` are written by their numbers, and no others are. -/
def Codes (form : Point → Text) (coded : Point → Bool) : Prop :=
  ∀ p : Point, p.isHighSurrogate = true ∨ p.isLowSurrogate = true →
    (form p = codeEscape p.val ↔ coded p = true)

section

variable {coded : Point → Bool} (hcoded : Codes form coded)

include hcoded

theorem readString_coded (hhigh : p.isHighSurrogate = true) (hlow : q.isLowSurrogate = true)
    (hp : coded p = true) (hq : coded q = true) (start : Nat) (s rest : Text) :
    readString start (stringEnd form (p :: q :: s) rest) =
      consRead (Utf16.joined p q) (readString start (stringEnd form s rest)) := by
  have hhigh' := Point.isHighSurrogate_iff.mp hhigh
  have hlow' := Point.isLowSurrogate_iff.mp hlow
  rw [stringEnd_cons, stringEnd_cons, (hcoded p (.inl hhigh)).mpr hp,
    (hcoded q (.inr hlow)).mpr hq,
    readString_pair (by omega) (by omega) hhigh hlow (stringEnd_ne_nil form s rest)]

theorem readString_lone
    (hpair : ¬ (p.isHighSurrogate && q.isLowSurrogate && coded p && coded q) = true)
    (hp : PointForm p (form p)) (hs : ∀ r ∈ q :: s, PointForm r (form r) ∨ IllForm (form r))
    (start : Nat) (rest : Text) : readString start (stringEnd form (p :: q :: s) rest) =
      consRead p (readString start (stringEnd form (q :: s) rest)) := by
  refine readString_point hp hs ?_ start rest
  rintro r ⟨⟩ hcodep hcodeq ⟨hhigh, hlow⟩
  refine hpair ?_
  rw [hhigh, hlow, (hcoded p (.inl hhigh)).mp hcodep, (hcoded q (.inr hlow)).mp hcodeq]
  rfl

/-- **A string is read as its text, rejoined.** -/
theorem readString_points (hs : ∀ p ∈ s, PointForm p (form p)) (start : Nat) (rest : Text) :
    readString start (stringEnd form s rest) = .ok (rejoined coded s, rest) := by
  induction s using rejoined.induct coded with
  | case1 => exact readString_quotationMark start rest
  | case2 p =>
    rw [readString_point (hs p List.mem_cons_self) (List.forall_mem_nil _) (fun _ hq => nomatch hq),
      stringEnd, List.flatMap_nil, List.nil_append, readString_quotationMark]
    rfl
  | case3 p q s hpair ih =>
    have hs' := (List.forall_mem_cons.mp (List.forall_mem_cons.mp hs).2).2
    rw [rejoined, if_pos hpair]
    simp only [Bool.and_eq_true] at hpair
    obtain ⟨⟨⟨hhigh, hlow⟩, hp⟩, hq⟩ := hpair
    rw [readString_coded hcoded hhigh hlow hp hq, ih hs']
    rfl
  | case4 p q s hpair ih =>
    obtain ⟨hp, hs⟩ := List.forall_mem_cons.mp hs
    rw [readString_lone hcoded hpair hp fun r hr => .inl (hs r hr), ih hs, rejoined, if_neg hpair]
    rfl

/-- **A string with an ill form is not read.** -/
theorem readString_ill (hs : ∀ p ∈ s, PointForm p (form p) ∨ IllForm (form p))
    (hill : ∃ p ∈ s, IllForm (form p)) (start : Nat) (rest : Text) :
    ∃ e, readString start (stringEnd form s rest) = .error e := by
  have hhead : ∀ p t, IllForm (form p) →
      ∃ e, readString start (stringEnd form (p :: t) rest) = .error e := by
    intro p t hp
    rw [stringEnd_cons]
    exact readString_illForm hp _
  have htail : ∀ {p t}, (∃ q ∈ p :: t, IllForm (form q)) → ¬ IllForm (form p) →
      ∃ q ∈ t, IllForm (form q) := fun h hp =>
    ((List.exists_mem_cons_iff (fun q => IllForm (form q)) _ _).mp h).resolve_left hp
  induction s using rejoined.induct coded with
  | case1 =>
    obtain ⟨p, hp, -⟩ := hill
    cases hp
  | case2 p =>
    obtain ⟨q, hq, hill⟩ := hill
    exact hhead p [] (List.mem_singleton.mp hq ▸ hill)
  | case3 p q s hpair ih =>
    simp only [Bool.and_eq_true] at hpair
    obtain ⟨⟨⟨hhigh, hlow⟩, hp⟩, hq⟩ := hpair
    have hhigh' := Point.isHighSurrogate_iff.mp hhigh
    have hlow' := Point.isLowSurrogate_iff.mp hlow
    have hs' := (List.forall_mem_cons.mp (List.forall_mem_cons.mp hs).2).2
    -- The pair itself is not ill.
    have hp' : ¬ IllForm (form p) := by
      rw [(hcoded p (.inl hhigh)).mpr hp]
      exact not_illForm_codeEscape (by omega)
    have hq' : ¬ IllForm (form q) := by
      rw [(hcoded q (.inr hlow)).mpr hq]
      exact not_illForm_codeEscape (by omega)
    obtain ⟨e, he⟩ := ih hs' (htail (htail hill hp') hq')
    exact ⟨e, by rw [readString_coded hcoded hhigh hlow hp hq, he]; rfl⟩
  | case4 p q s hpair ih =>
    obtain ⟨hp, hs⟩ := List.forall_mem_cons.mp hs
    rcases hp with hp | hp
    · by_cases hill' : IllForm (form p)
      · exact hhead p _ hill'
      obtain ⟨e, he⟩ := ih hs (htail hill hill')
      exact ⟨e, by rw [readString_lone hcoded hpair hp hs, he]; rfl⟩
    · exact hhead p _ hp

end

/-! ## Strings of reports -/

theorem pointForm_stringPoint (ascii : Bool) {p : Point} (hp : ascii = true → p.val < 0x10000) :
    PointForm p (stringPoint ascii p) := by
  have hcode : ∀ n (hn : n < 0x110000), p.val = n → p = ⟨n, hn⟩ := fun _ _ h => Fin.ext h
  rw [stringPoint]
  split_ifs with hmarks hfeed hreturn htab hback hform hcontrol
  · rcases hmarks with rfl | rfl
    · exact .letter (by decide) (by decide)
    · exact .letter (by decide) (by decide)
  · exact hfeed ▸ .letter (by decide) (by decide)
  · exact hreturn ▸ .letter (by decide) (by decide)
  · exact htab ▸ .letter (by decide) (by decide)
  · exact hcode 0x08 (by decide) hback ▸ .letter (by decide) (by decide)
  · exact hcode 0x0C (by decide) hform ▸ .letter (by decide) (by decide)
  · have hfirst : p.val < 0x10000 := hcontrol.elim (fun h => by omega) fun h => hp h.1
    rw [codeEscapes, if_pos hfirst]
    exact .code hfirst
  · rw [not_or] at hmarks hcontrol
    exact .plain hmarks.1 hmarks.2 hcontrol.1

/-- A point beyond ASCII is none that a string has to write in another way. -/
theorem stringPoint_of_ge (ascii : Bool) {p : Point} (hp : 0x80 ≤ p.val) :
    stringPoint ascii p = if ascii then codeEscapes p else [p] := by
  have hne : ∀ q : Point, q.val < 0x80 → p ≠ q := by
    rintro q hq rfl
    omega
  have hquote := hne Point.quotationMark (by decide)
  have hbackslash := hne Point.backslash (by decide)
  rw [stringPoint, if_neg (not_or.mpr ⟨hquote, hbackslash⟩), if_neg (hne _ (by decide)),
    if_neg (hne _ (by decide)), if_neg (hne _ (by decide)), if_neg (by omega), if_neg (by omega)]
  cases ascii with
  | false => rw [if_neg (by simp; omega), if_neg Bool.false_ne_true]
  | true => rw [if_pos (.inr ⟨rfl, by omega⟩), if_pos rfl]

theorem codes_stringPoint : Codes (stringPoint true) fun _ => true := by
  intro p hp
  have hrange : 0xD800 ≤ p.val ∧ p.val < 0x10000 := by
    rw [Point.isHighSurrogate_iff, Point.isLowSurrogate_iff] at hp
    omega
  refine iff_of_true ?_ rfl
  rw [stringPoint_of_ge true (by omega), if_pos rfl, codeEscapes, if_pos hrange.2]

/-- **A string is written unit by unit.** -/
theorem flatMap_stringPoint (s : Text) :
    s.flatMap (stringPoint true) = (s.flatMap Utf16.unitsOf).flatMap (stringPoint true) := by
  rw [List.flatMap_assoc]
  refine List.flatMap_congr fun p _ => ?_
  have hp := p.isLt
  rw [Utf16.unitsOf]
  split_ifs with hfirst
  · rw [List.flatMap_singleton]
  · have hhigh := Utf16.val_highUnit p
    have hlow := Utf16.val_lowUnit p
    rw [stringPoint_of_ge true (by omega), if_pos rfl, codeEscapes, if_neg hfirst,
      List.flatMap_cons, List.flatMap_singleton, stringPoint_of_ge true (by omega), if_pos rfl,
      stringPoint_of_ge true (by omega), if_pos rfl, codeEscapes, codeEscapes,
      if_pos (by omega), if_pos (by omega), hhigh, hlow]

/-- **A string of a report is read as its units**, of which the pairs are joined. -/
theorem readString_string (start : Nat) (s rest : Text) :
    readString start (s.flatMap (stringPoint true) ++ Point.quotationMark :: rest) =
      .ok (Utf16.pairUp (s.flatMap Utf16.unitsOf), rest) := by
  have hus : ∀ u ∈ s.flatMap Utf16.unitsOf, u.val < 0x10000 := by
    intro u hu
    obtain ⟨p, -, hp⟩ := List.mem_flatMap.mp hu
    exact Utf16.lt_of_mem_unitsOf hp
  rw [flatMap_stringPoint, ← rejoined_true]
  exact readString_points codes_stringPoint
    (fun u hu => pointForm_stringPoint true fun _ => hus u hu) start rest

end Json

end HiveScript
