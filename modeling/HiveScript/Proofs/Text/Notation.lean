import HiveScript.Proofs.Text.Hexadecimal

/-!
# The liberal notation of integers

What the reader of numerals takes: a sign, in base 16 zero and an x, and digits of any script, with
single low lines before them.

* `Numeral.Spells`: digits with single low lines between them; `spells_of_readDigits`,
  `Spells.readDigits_eq`.
* `Numeral.Unsigned`, `Numeral.Denotes`: numerals of base 16 without and with a sign;
  `Numeral.UnsignedDecimal`, `Numeral.DenotesDecimal`: the same of base 10.
* **`read_eq_ok_iff`**, **`read_decimal_eq_ok_iff`**: these are the texts that are read, and what
  they are read as.
-/

namespace HiveScript

theorem Point.ne_lowLine_of_digit? {p : Point} {d : Nat} (h : p.digit? = some d) :
    p ≠ Point.ofChar '_' := by
  have hline : (Point.ofChar '_').digit? = none := by decide
  rintro rfl
  cases hline.symm.trans h

/-- The point after the zero of a mark is none of the sixteen digits. -/
theorem Point.not_digit?_mark {q : Point} (hq : q = Point.ofChar 'x' ∨ q = Point.ofChar 'X')
    {d : Nat} (h : q.digit? = some d) : ¬ d < 16 := by
  have hsmall : (Point.ofChar 'x').digit? = some 33 := by decide
  have hcapital : (Point.ofChar 'X').digit? = some 33 := by decide
  rcases hq with rfl | rfl
  · obtain rfl := Option.some.inj (hsmall.symm.trans h)
    decide
  · obtain rfl := Option.some.inj (hcapital.symm.trans h)
    decide

namespace Numeral

/-! ## Digits -/

/-- Digits in a base, with single low lines between them. -/
inductive Spells (base : Nat) : Text → List Nat → Prop
  | last {p : Point} {d : Nat} (digit : p.digit? = some d) (lt : d < base) : Spells base [p] [d]
  | cons {p : Point} {s : Text} {d : Nat} {ds : List Nat} (digit : p.digit? = some d)
    (lt : d < base) (rest : Spells base s ds) : Spells base (p :: s) (d :: ds)
  | lined {p : Point} {s : Text} {d : Nat} {ds : List Nat} (digit : p.digit? = some d)
    (lt : d < base) (rest : Spells base s ds) :
    Spells base (p :: Point.ofChar '_' :: s) (d :: ds)

variable {base d : Nat} {p : Point} {s w : Text} {ds : List Nat}

namespace Spells

theorem ne_nil (h : Spells base s ds) : ds ≠ [] := by
  cases h <;> exact List.cons_ne_nil _ _

theorem exists_cons (h : Spells base s ds) :
    ∃ p t d, s = p :: t ∧ p.digit? = some d ∧ d < base := by
  cases h with
  | last digit lt => exact ⟨_, _, _, rfl, digit, lt⟩
  | cons digit lt => exact ⟨_, _, _, rfl, digit, lt⟩
  | lined digit lt => exact ⟨_, _, _, rfl, digit, lt⟩

theorem head?_ne (h : Spells base s ds) : s.head? ≠ some (Point.ofChar '_') := by
  obtain ⟨p, t, d, rfl, digit, -⟩ := h.exists_cons
  exact fun hp => Point.ne_lowLine_of_digit? digit (Option.some.inj hp)

/-- The second point is a digit too, or a low line. -/
theorem second (h : Spells base (p :: s) ds) {q : Point} {t : Text} (hs : s = q :: t) :
    q = Point.ofChar '_' ∨ ∃ d < base, q.digit? = some d := by
  cases h with
  | last => cases hs
  | cons _ _ rest =>
    obtain ⟨q', t', d, hs', digit, lt⟩ := rest.exists_cons
    obtain ⟨rfl, -⟩ := List.cons.inj (hs.symm.trans hs')
    exact .inr ⟨d, lt, digit⟩
  | lined => exact .inl (List.cons.inj hs).1.symm

end Spells

theorem readDigits_cons (digit : p.digit? = some d) (lt : d < base) (s : Text) :
    readDigits base (p :: s) = (d :: ·) <$> readDigits base s := by
  rw [readDigits.eq_def]
  simp [Point.ne_lowLine_of_digit? digit, digit, lt]

/-- A low line is read together with the digit after it. -/
theorem readDigits_lowLine (hs : s ≠ []) (hhead : s.head? ≠ some (Point.ofChar '_')) :
    readDigits base (Point.ofChar '_' :: s) = readDigits base s := by
  cases s with
  | nil => exact absurd rfl hs
  | cons q s =>
    have hq : q ≠ Point.ofChar '_' := fun h => hhead (congrArg some h)
    rw [readDigits.eq_def, readDigits.eq_def base (q :: s)]
    simp only [if_neg hq, if_true]

theorem ne_nil_of_readDigits_lowLine (h : readDigits base (Point.ofChar '_' :: s) = some ds) :
    s ≠ [] ∧ s.head? ≠ some (Point.ofChar '_') := by
  rw [readDigits.eq_def] at h
  cases s with
  | nil => simp at h
  | cons q s =>
    refine ⟨List.cons_ne_nil q s, fun hq => ?_⟩
    obtain rfl : q = Point.ofChar '_' := Option.some.inj hq
    have hline : (Point.ofChar '_').digit? = none := by decide
    simp [hline] at h

theorem exists_of_readDigits_cons (hp : p ≠ Point.ofChar '_')
    (h : readDigits base (p :: s) = some ds) :
    ∃ d ds', p.digit? = some d ∧ d < base ∧ readDigits base s = some ds' ∧ ds = d :: ds' := by
  rw [readDigits.eq_def] at h
  simp only [if_neg hp] at h
  obtain ⟨d, digit, h⟩ := Option.bind_eq_some_iff.mp h
  split_ifs at h with lt
  obtain ⟨ds', hrest, rfl⟩ := Option.map_eq_some_iff.mp h
  exact ⟨d, ds', digit, lt, hrest, rfl⟩

theorem spells_of_readDigits : ∀ {s : Text} {ds : List Nat}, s ≠ [] →
    s.head? ≠ some (Point.ofChar '_') → readDigits base s = some ds → Spells base s ds
  | [], _, hs, _, _ => absurd rfl hs
  | [p], ds, _, hhead, h => by
    obtain ⟨d, ds', digit, lt, hrest, rfl⟩ :=
      exists_of_readDigits_cons (fun hp => hhead (congrArg some hp)) h
    obtain rfl : [] = ds' := Option.some.inj hrest
    exact .last digit lt
  | p :: q :: t, ds, _, hhead, h => by
    obtain ⟨d, ds', digit, lt, hrest, rfl⟩ :=
      exists_of_readDigits_cons (fun hp => hhead (congrArg some hp)) h
    by_cases hq : q = Point.ofChar '_'
    · obtain rfl := hq
      obtain ⟨hne, hnext⟩ := ne_nil_of_readDigits_lowLine hrest
      rw [readDigits_lowLine hne hnext] at hrest
      exact .lined digit lt (spells_of_readDigits hne hnext hrest)
    · exact .cons digit lt (spells_of_readDigits (List.cons_ne_nil q t)
        (fun h => hq (Option.some.inj h)) hrest)

theorem Spells.readDigits_eq (h : Spells base s ds) : readDigits base s = some ds := by
  induction h with
  | last digit lt =>
    rw [readDigits_cons digit lt]
    rfl
  | cons digit lt _ ih =>
    rw [readDigits_cons digit lt, ih]
    rfl
  | lined digit lt rest ih =>
    obtain ⟨q, t, -, rfl, -⟩ := rest.exists_cons
    rw [readDigits_cons digit lt, readDigits_lowLine (List.cons_ne_nil q t) rest.head?_ne, ih]
    rfl

/-! ## Numerals -/

/-- A numeral of base 16 without a sign. Before its digits there may be a mark: a zero and an x,
and one more low line. -/
inductive Unsigned : Text → Nat → Prop
  | bare {s : Text} {ds : List Nat} (digits : Spells 16 s ds) : Unsigned s (ofDigits 16 ds)
  | marked {z x : Point} {s : Text} {ds : List Nat} (zero : z.decimalDigit? = some 0)
    (letter : x = Point.ofChar 'x' ∨ x = Point.ofChar 'X') (digits : Spells 16 s ds) :
    Unsigned (z :: x :: s) (ofDigits 16 ds)
  | lined {z x : Point} {s : Text} {ds : List Nat} (zero : z.decimalDigit? = some 0)
    (letter : x = Point.ofChar 'x' ∨ x = Point.ofChar 'X') (digits : Spells 16 s ds) :
    Unsigned (z :: x :: Point.ofChar '_' :: s) (ofDigits 16 ds)

/-- A numeral of base 16 in the liberal notation. -/
inductive Denotes : Text → Int → Prop
  | plain {s : Text} {n : Nat} (body : Unsigned s n) : Denotes s n
  | plus {s : Text} {n : Nat} (body : Unsigned s n) : Denotes (Point.ofChar '+' :: s) n
  | minus {s : Text} {n : Nat} (body : Unsigned s n) : Denotes (Point.ofChar '-' :: s) (-n)

theorem readBody_eq_some_iff :
    readBody base s = some ds ↔ Spells base (dropMark base s) ds := by
  rw [readBody]
  constructor
  · intro h
    split_ifs at h with hhead
    obtain ⟨hread, hne⟩ := Option.filter_eq_some_iff.mp h
    have hs : dropMark base s ≠ [] := by
      intro hs
      rw [hs] at hread
      obtain rfl : [] = ds := Option.some.inj hread
      exact Bool.noConfusion hne
    exact spells_of_readDigits hs hhead hread
  · intro h
    rw [if_neg h.head?_ne, h.readDigits_eq, Option.filter_eq_some_iff]
    exact ⟨rfl, by simpa using h.ne_nil⟩

/-- Digits have no mark before them that could be dropped. -/
theorem Spells.dropMark_eq (h : Spells 16 s ds) : dropMark 16 s = s := by
  rcases s with _ | ⟨p, _ | ⟨q, s⟩⟩
  · rfl
  · rfl
  · rw [dropMark, if_neg]
    rintro ⟨-, -, hletter⟩
    rcases h.second rfl with rfl | ⟨d, lt, digit⟩
    · exact absurd hletter (by decide)
    · exact Point.not_digit?_mark hletter digit lt

theorem dropMark_marked {z x : Point} (zero : z.decimalDigit? = some 0)
    (letter : x = Point.ofChar 'x' ∨ x = Point.ofChar 'X') (s : Text) :
    dropMark 16 (z :: x :: s) = if s.head? = some (Point.ofChar '_') then s.tail else s := by
  rw [dropMark, if_pos ⟨rfl, zero, letter⟩]

/-- **A numeral without a sign** is a mark, or none, and digits. -/
theorem unsigned_iff {n : Nat} :
    Unsigned s n ↔ ∃ ds, readBody 16 s = some ds ∧ n = ofDigits 16 ds := by
  simp only [readBody_eq_some_iff]
  constructor
  · intro h
    cases h with
    | bare digits => exact ⟨_, digits.dropMark_eq.symm ▸ digits, rfl⟩
    | marked zero letter digits =>
      refine ⟨_, ?_, rfl⟩
      rwa [dropMark_marked zero letter, if_neg digits.head?_ne]
    | lined zero letter digits =>
      refine ⟨_, ?_, rfl⟩
      rwa [dropMark_marked zero letter, List.head?_cons, if_pos rfl, List.tail_cons]
  · rintro ⟨ds, h, rfl⟩
    rcases s with _ | ⟨p, _ | ⟨q, s⟩⟩
    · exact .bare h
    · exact .bare h
    · by_cases hmark : p.decimalDigit? = some 0 ∧ (q = Point.ofChar 'x' ∨ q = Point.ofChar 'X')
      · obtain ⟨zero, letter⟩ := hmark
        rw [dropMark_marked zero letter] at h
        split_ifs at h with hline
        · obtain ⟨t, rfl⟩ := List.head?_eq_some_iff.mp hline
          exact .lined zero letter h
        · exact .marked zero letter h
      · rw [dropMark, if_neg fun h => hmark h.2] at h
        exact .bare h

/-! ## Signs -/

/-- What begins with a digit begins with no sign. -/
theorem readSign_of_digit (hp : p.digit? ≠ none ∨ p.decimalDigit? ≠ none) (s : Text) :
    readSign (p :: s) = (false, p :: s) := by
  have hsign : p ≠ Point.ofChar '-' ∧ p ≠ Point.ofChar '+' := by
    refine ⟨?_, ?_⟩
    all_goals
      rintro rfl
      exact absurd hp (by decide)
  rw [readSign, if_neg hsign.1, if_neg hsign.2]

theorem Spells.readSign_eq (h : Spells base s ds) : readSign s = (false, s) := by
  obtain ⟨p, t, d, rfl, digit, -⟩ := h.exists_cons
  exact readSign_of_digit (.inl (by simp [digit])) t

/-- No numeral without a sign begins with one. -/
theorem Unsigned.readSign_eq {n : Nat} (h : Unsigned s n) : readSign s = (false, s) := by
  cases h with
  | bare digits => exact digits.readSign_eq
  | marked zero => exact readSign_of_digit (.inr (by simp [zero])) _
  | lined zero => exact readSign_of_digit (.inr (by simp [zero])) _

/-- A sign, or none, before what has no sign of its own. -/
inductive Signed (P : Text → Nat → Prop) : Text → Int → Prop
  | plain {s : Text} {n : Nat} (body : P s n) : Signed P s n
  | plus {s : Text} {n : Nat} (body : P s n) : Signed P (Point.ofChar '+' :: s) n
  | minus {s : Text} {n : Nat} (body : P s n) : Signed P (Point.ofChar '-' :: s) (-n)

theorem signed_iff (P : Text → Nat → Prop) (hP : ∀ {s n}, P s n → readSign s = (false, s))
    {i : Int} : Signed P s i ↔
      ∃ n : Nat, P (readSign s).2 n ∧ i = if (readSign s).1 then -(n : Int) else n := by
  constructor
  · intro h
    cases h with
    | plain body =>
      rw [hP body]
      exact ⟨_, body, rfl⟩
    | plus body => exact ⟨_, body, rfl⟩
    | minus body => exact ⟨_, body, rfl⟩
  · rintro ⟨n, body, rfl⟩
    cases s with
    | nil => exact .plain body
    | cons p s =>
      by_cases hminus : p = Point.ofChar '-'
      · subst hminus
        exact .minus body
      · by_cases hplus : p = Point.ofChar '+'
        · subst hplus
          exact .plus body
        · rw [readSign, if_neg hminus, if_neg hplus] at body ⊢
          exact .plain body

/-- **A numeral** is a sign, or none, and a numeral without a sign. -/
theorem denotes_iff {i : Int} : Denotes s i ↔
    ∃ n : Nat, Unsigned (readSign s).2 n ∧ i = if (readSign s).1 then -(n : Int) else n := by
  rw [← signed_iff Unsigned Unsigned.readSign_eq]
  constructor
  · intro h
    cases h with
    | plain body => exact .plain body
    | plus body => exact .plus body
    | minus body => exact .minus body
  · intro h
    cases h with
    | plain body => exact .plain body
    | plus body => exact .plus body
    | minus body => exact .minus body

/-! ## Reading -/

theorem read_eq_ok_iff_readBody {i : Int} : read base s = .ok i ↔
    ∃ ds, readBody base (readSign (s.trimBy isMargin)).2 = some ds ∧
      (base = 10 → ds.length ≤ maxDigits) ∧
      i = if (readSign (s.trimBy isMargin)).1 then -(ofDigits base ds : Int)
        else ofDigits base ds := by
  rw [read]
  dsimp only
  cases readBody base (readSign (s.trimBy isMargin)).2 with
  | none =>
    constructor
    · intro h
      cases h
    · rintro ⟨_, ⟨⟩, -⟩
  | some ds =>
    dsimp only
    by_cases hlong : base = 10 ∧ maxDigits < ds.length
    · rw [if_pos hlong]
      constructor
      · intro h
        cases h
      · rintro ⟨_, ⟨⟩, hshort, -⟩
        exact absurd (hshort hlong.1) (not_le.mpr hlong.2)
    · rw [if_neg hlong, Except.ok.injEq]
      constructor
      · rintro rfl
        exact ⟨ds, rfl, fun hbase => not_lt.mp fun hlt => hlong ⟨hbase, hlt⟩, rfl⟩
      · rintro ⟨_, ⟨⟩, -, rfl⟩
        rfl

/-- **The texts that are read in base 16** are the numerals of the liberal notation with blanks
around them. -/
theorem read_eq_ok_iff {i : Int} : read 16 s = .ok i ↔ Denotes (s.trimBy isMargin) i := by
  rw [denotes_iff, read_eq_ok_iff_readBody]
  simp only [unsigned_iff]
  constructor
  · rintro ⟨ds, hbody, -, rfl⟩
    exact ⟨_, ⟨ds, hbody, rfl⟩, rfl⟩
  · rintro ⟨_, ⟨ds, hbody, rfl⟩, rfl⟩
    exact ⟨ds, hbody, nofun, rfl⟩

/-! ## Decimal numerals -/

/-- A decimal numeral without a sign: digits, and not too many of them. -/
inductive UnsignedDecimal : Text → Nat → Prop
  | bare {s : Text} {ds : List Nat} (digits : Spells 10 s ds) (length_le : ds.length ≤ maxDigits) :
    UnsignedDecimal s (ofDigits 10 ds)

/-- A decimal numeral in the liberal notation. -/
def DenotesDecimal (s : Text) (i : Int) : Prop := Signed UnsignedDecimal s i

/-- There is no mark of base 10. -/
theorem dropMark_decimal (s : Text) : dropMark 10 s = s := by
  rcases s with _ | ⟨p, _ | ⟨q, s⟩⟩
  · rfl
  · rfl
  · rw [dropMark, if_neg fun h => absurd h.1 (by decide)]

theorem UnsignedDecimal.readSign_eq {n : Nat} (h : UnsignedDecimal s n) :
    readSign s = (false, s) := by
  obtain ⟨digits, -⟩ := h
  exact digits.readSign_eq

/-- **The texts that are read in base 10** are the decimal numerals of the liberal notation with
blanks around them. -/
theorem read_decimal_eq_ok_iff {i : Int} :
    read 10 s = .ok i ↔ DenotesDecimal (s.trimBy isMargin) i := by
  rw [DenotesDecimal, signed_iff UnsignedDecimal UnsignedDecimal.readSign_eq, read_eq_ok_iff_readBody]
  have hbody : ∀ {t : Text} {ds : List Nat}, readBody 10 t = some ds ↔ Spells 10 t ds := by
    intro t ds
    rw [readBody_eq_some_iff, dropMark_decimal]
  constructor
  · rintro ⟨ds, hread, hshort, rfl⟩
    exact ⟨_, .bare (hbody.mp hread) (hshort rfl), rfl⟩
  · rintro ⟨_, ⟨digits, length_le⟩, rfl⟩
    exact ⟨_, hbody.mpr digits, fun _ => length_le, rfl⟩

end Numeral

end HiveScript
