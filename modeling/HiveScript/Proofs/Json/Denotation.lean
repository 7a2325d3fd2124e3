import HiveScript.Proofs.Json.Strings

/-!
# What reports say

What a report says is read back from it, part by part: first the values without parts.

* `ReadAs`: what a text comes back as.
* `readNumber_decimal`: the numeral of a number.
* `Reads`: a text is read as a value, whatever follows it; `reads_ofInt`, **`reads_quoted`**.
* `Denotes`: a value whose report is in ASCII and is read as another value; `denotes_null`,
  `denotes_bool`, `denotes_int`, **`denotes_text`**.
-/

namespace HiveScript.Json

/-- What a text of a report comes back as: halves of pairs that stand one after the other come back
as one point, and all else is the same. -/
structure ReadAs (t t' : Text) : Prop where
  joined : t' = Utf16.pairUp (t.flatMap Utf16.unitsOf)
  same : Utf16.Unpaired t → t' = t

theorem readAs (t : Text) : ReadAs t (Utf16.pairUp (t.flatMap Utf16.unitsOf)) :=
  ⟨rfl, Utf16.pairUp_flatMap_unitsOf⟩

/-! ## Numbers -/

/-- No numeral goes on at the beginning of a text. -/
def Closed (rest : Text) : Prop :=
  ∀ p ∈ rest.head?, p.isDigit = false ∧ p ≠ Point.ofChar '.' ∧ p ≠ Point.ofChar 'e' ∧
    p ≠ Point.ofChar 'E'

/-- The digits of a numeral end where it ends. -/
theorem spanDigits_decimal (n : Nat) {rest : Text} (hrest : Closed rest) :
    spanDigits (Numeral.decimal n ++ rest) = (Numeral.decimal n, rest) := by
  have hdigits : ∀ p ∈ Numeral.decimal n, p.isDigit = true :=
    fun _ => Numeral.isDigit_of_mem_decimal
  rw [spanDigits, List.takeWhile_append_of_pos hdigits, List.dropWhile_append_of_pos hdigits]
  cases rest with
  | nil => rw [List.takeWhile_nil, List.append_nil, List.dropWhile_nil]
  | cons p rest =>
    have hp : ¬ p.isDigit = true := Bool.eq_false_iff.mp (hrest p rfl).1
    rw [List.takeWhile_cons_of_neg hp, List.dropWhile_cons_of_neg hp, List.append_nil]

theorem wholePart?_decimal (n : Nat) {rest : Text} (hrest : Closed rest) :
    wholePart? (Numeral.decimal n ++ rest) = some (Numeral.decimal n, rest) := by
  by_cases hn : n = 0
  · subst hn
    rfl
  · obtain ⟨d, t, hdecimal, hd⟩ := Numeral.exists_decimal_eq n
    have hspan := spanDigits_decimal n hrest
    have hhead := Numeral.head?_decimal_ne hn
    rw [hdecimal] at hspan hhead ⊢
    rw [List.cons_append] at hspan ⊢
    rw [wholePart?, if_neg (fun h => hhead (congrArg some h)), if_pos hd, hspan]

/-- **The numeral of a number is read as the number.** -/
theorem readNumber_decimal (negative : Bool) {n : Nat} (hn : n < Numeral.limit) {rest : Text}
    (hrest : Closed rest) :
    readNumber negative (Numeral.decimal n ++ rest) =
      some (.ok (.int (if negative then -(n : Int) else n)), rest) := by
  have hlength : ¬ Numeral.maxDigits < (Numeral.decimal n).length := by
    have hle : ∀ k, 0 < k → n < Nat.pow 10 k → (Numeral.decimal n).length ≤ k :=
      fun _ hk h => Numeral.length_write_le hk h
    -- The bound must not be computed.
    delta Numeral.limit at hn
    exact not_lt.mpr (hle Numeral.maxDigits (by decide) hn)
  have hfraction : fraction? rest = none := by
    cases rest with
    | nil => rfl
    | cons p rest => rw [fraction?, if_neg (fun h => (hrest p rfl).2.1 h.1)]
  have hexponent : exponent? rest = none := by
    cases rest with
    | nil => rfl
    | cons p rest =>
      obtain ⟨-, -, he, hE⟩ := hrest p rfl
      rw [exponent?, if_neg (not_or.mpr ⟨he, hE⟩)]
  have hvalue := Numeral.decimalValue_decimal n
  rw [Numeral.decimalValue] at hvalue
  simp [readNumber, wholePart?_decimal n hrest, hfraction, hexponent, hlength, hvalue]

/-! ## Atoms -/

/-- A text is read as a value that has at most `height` arrays and objects inside of each other,
whatever follows it. -/
structure Reads (height : Nat) (t : Text) (v : Value) : Prop where
  head : ∃ p t', t = p :: t' ∧ isSpace p = false ∧ p ≠ Point.ofChar ']'
  readValue_eq : ∀ depth fuel rest, depth + height ≤ deepest → t.length ≤ fuel → Closed rest →
    readValue depth fuel (t ++ rest) = .ok (v, rest)

theorem Reads.mono {height height' : Nat} {t : Text} {v : Value} (h : Reads height t v)
    (hle : height ≤ height') : Reads height' t v where
  head := h.head
  readValue_eq depth fuel rest hdepth := h.readValue_eq depth fuel rest (by omega)

/-- What is read as an atom. -/
theorem reads_of_readAtom {p : Point} {t : Text} {v : Value} (hspace : isSpace p = false)
    (hquote : p ≠ Point.quotationMark) (hbrace : p ≠ Point.openBrace)
    (hopen : p ≠ Point.ofChar '[') (hclose : p ≠ Point.ofChar ']')
    (h : ∀ rest, Closed rest → readAtom (p :: t ++ rest) = .ok (v, rest)) : Reads 0 (p :: t) v where
  head := ⟨p, t, rfl, hspace, hclose⟩
  readValue_eq depth fuel rest _ hfuel hrest := by
    cases fuel with
    | zero => exact absurd hfuel (Nat.not_succ_le_zero _)
    | succ fuel =>
      rw [List.cons_append, readValue]
      simp only [if_neg hquote, if_neg hbrace, if_neg hopen]
      exact h rest hrest

/-- No word has a digit at its first or second place. -/
theorem exists_of_mem_words {e : String × Value} (he : e ∈ words) :
    ∃ a b w, (e.1 : Text) = a :: b :: w ∧ a.isDigit = false ∧ b.isDigit = false := by
  simp only [words, List.mem_cons, List.not_mem_nil, or_false] at he
  rcases he with rfl | rfl | rfl | rfl | rfl | rfl <;> exact ⟨_, _, _, rfl, rfl, rfl⟩

theorem readAtom_of_readNumber {p : Point} {s rest : Text} {v : Value}
    (hdigit : p.isDigit = true ∨ s.head?.any Point.isDigit = true)
    (h : (if p = Point.ofChar '-' then readNumber true s else readNumber false (p :: s)) =
      some (.ok v, rest)) : readAtom (p :: s) = .ok (v, rest) := by
  have hwords : ∀ e ∈ words, Text.after? (Text.ofString e.1) (p :: s) = none := by
    intro e he
    obtain ⟨a, b, w, hword, ha, hb⟩ := exists_of_mem_words he
    rw [Text.after?_eq_none_iff]
    rintro ⟨more, hmore⟩
    rw [hword] at hmore
    cases hmore
    rcases hdigit with hdigit | hdigit
    · exact Bool.false_ne_true (ha.symm.trans hdigit)
    · exact Bool.false_ne_true (hb.symm.trans hdigit)
  rw [readAtom.eq_def]
  split
  · next found hfound =>
    obtain ⟨e, he, hword⟩ := List.exists_of_findSome?_eq_some hfound
    dsimp only at hword
    rw [hwords e he] at hword
    cases hword
  · simp only [h]

theorem ne_of_isDigit {p q : Point} (hp : p.isDigit = true) (hq : q.isDigit = false) : p ≠ q := by
  rintro rfl
  exact Bool.false_ne_true (hq.symm.trans hp)

theorem isSpace_of_isDigit {p : Point} (hp : p.isDigit = true) : isSpace p = false := by
  rw [isSpace, decide_eq_false (ne_of_isDigit hp rfl), decide_eq_false (ne_of_isDigit hp rfl),
    decide_eq_false (ne_of_isDigit hp rfl), decide_eq_false (ne_of_isDigit hp rfl)]
  rfl

/-- **A number is read as it was written.** -/
theorem reads_ofInt {i : Int} (hi : i.natAbs < Numeral.limit) :
    Reads 0 (Numeral.ofInt i) (.int i) := by
  cases i with
  | ofNat n =>
    obtain ⟨d, t, hnumeral, hd⟩ := Numeral.exists_decimal_eq n
    rw [Numeral.ofInt, hnumeral]
    refine reads_of_readAtom (isSpace_of_isDigit hd) (ne_of_isDigit hd rfl) (ne_of_isDigit hd rfl)
      (ne_of_isDigit hd rfl) (ne_of_isDigit hd rfl) fun rest hrest =>
        readAtom_of_readNumber (.inl hd) ?_
    have hread := readNumber_decimal false (n := n) hi hrest
    rw [hnumeral] at hread
    exact (if_neg (ne_of_isDigit hd rfl)).trans hread
  | negSucc n =>
    obtain ⟨d, t, hnumeral, hd⟩ := Numeral.exists_decimal_eq (n + 1)
    rw [Numeral.ofInt]
    refine reads_of_readAtom (by decide) (by decide) (by decide) (by decide) (by decide)
      fun rest hrest => readAtom_of_readNumber (.inr ?_) ?_
    · rw [hnumeral]
      exact hd
    · have hread := readNumber_decimal true (n := n + 1) hi hrest
      exact (if_pos rfl).trans hread

/-- What stands between two quotes is read as `s`. -/
def Spells (body s : Text) : Prop :=
  ∀ start rest, readString start (body ++ Point.quotationMark :: rest) = .ok (s, rest)

/-- A string from what stands between its quotes. -/
def quoted (body : Text) : Text := [Point.quotationMark] ++ body ++ [Point.quotationMark]

theorem quoted_append (body rest : Text) :
    quoted body ++ rest = Point.quotationMark :: (body ++ Point.quotationMark :: rest) := by
  simp [quoted]

theorem spells_string (s : Text) :
    Spells (s.flatMap (stringPoint true)) (Utf16.pairUp (s.flatMap Utf16.unitsOf)) :=
  fun start rest => readString_string start s rest

/-- **A string is read as what it spells.** -/
theorem reads_quoted {body s : Text} (h : Spells body s) : Reads 0 (quoted body) (.text s) where
  head := ⟨_, _, rfl, by decide, by decide⟩
  readValue_eq depth fuel rest _ hfuel _ := by
    cases fuel with
    | zero => exact absurd hfuel (Nat.not_succ_le_zero _)
    | succ fuel =>
      rw [quoted_append, readValue]
      simp only [if_true, h _ _]
      rfl

/-! ## Values -/

/-- A value, if it has a report, has one in ASCII that is read as `v'`. -/
def Denotes (height : Nat) (v v' : Value) : Prop :=
  ∀ depth t, write .report depth v = .ok t → t.IsAscii ∧ Reads height t v'

theorem Denotes.mono {height height' : Nat} {v v' : Value} (h : Denotes height v v')
    (hle : height ≤ height') : Denotes height' v v' := by
  intro depth t ht
  obtain ⟨hascii, hreads⟩ := h depth t ht
  exact ⟨hascii, hreads.mono hle⟩

theorem denotes_null : Denotes 0 .null .null := by
  rintro depth t ht
  rw [Value.null, write, scalar] at ht
  obtain rfl := Except.ok.inj ht
  refine ⟨by decide, reads_of_readAtom ?_ ?_ ?_ ?_ ?_ fun _ _ => rfl⟩
  all_goals decide

theorem denotes_bool (b : Bool) : Denotes 0 (.bool b) (.bool b) := by
  rintro depth t ht
  rw [Value.bool, write, scalar] at ht
  obtain rfl := Except.ok.inj ht
  cases b with
  | false =>
    refine ⟨by decide, reads_of_readAtom ?_ ?_ ?_ ?_ ?_ fun _ _ => rfl⟩
    all_goals decide
  | true =>
    refine ⟨by decide, reads_of_readAtom ?_ ?_ ?_ ?_ ?_ fun _ _ => rfl⟩
    all_goals decide

theorem denotes_int (i : Int) : Denotes 0 (.int i) (.int i) := by
  rintro depth t ht
  rw [Value.int, write, scalar] at ht
  by_cases hi : i.natAbs < Numeral.limit
  · rw [integer_of_lt hi] at ht
    obtain rfl := Except.ok.inj ht
    exact ⟨(Numeral.isBasic_ofInt i).isAscii, reads_ofInt hi⟩
  · have hnone : Numeral.ofInt? i = none := if_neg hi
    delta integer at ht
    rw [hnone] at ht
    cases ht

theorem denotes_text (s : Text) :
    Denotes 0 (.text s) (.text (Utf16.pairUp (s.flatMap Utf16.unitsOf))) := by
  rintro depth t ht
  rw [Value.text, write, scalar] at ht
  obtain rfl := Except.ok.inj ht
  exact ⟨isAscii_string s, reads_quoted (spells_string s)⟩

end HiveScript.Json
