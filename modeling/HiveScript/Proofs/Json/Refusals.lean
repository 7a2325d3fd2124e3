import HiveScript.Proofs.Json.RoundTrip

/-!
# Texts that are not read

A string with an ill escape is not read, and neither is an object that holds it, however deep it
stands and whatever stands before and after it.

* `Misspells`, `Refuses`: strings and values that are not read.
* `RefusesField`: fields that are not read; `readFields_refused`, `readFields_join_refused`.
* **`refuses_object`**: an object with a field that is not read.
-/

namespace HiveScript.Json

/-! ## Fields -/

/-- What stands between two quotes is not read. -/
def Misspells (body : Text) : Prop :=
  ∀ start rest, ∃ e, readString start (body ++ Point.quotationMark :: rest) = .error e

/-- A text with at most `height` arrays and objects inside of each other is read as no value,
whatever follows it. -/
def Refuses (height : Nat) (t : Text) : Prop :=
  ∀ depth fuel rest, depth + height ≤ deepest → t.length ≤ fuel → Closed rest →
    ∃ e, readValue depth fuel (t ++ rest) = .error e

theorem refuses_quoted {body : Text} (h : Misspells body) : Refuses 0 (quoted body) := by
  intro depth fuel rest _ hfuel _
  cases fuel with
  | zero => exact absurd hfuel (Nat.not_succ_le_zero _)
  | succ fuel =>
    obtain ⟨e, he⟩ := h (quoted body ++ rest).length rest
    rw [quoted_append] at he
    rw [quoted_append, readValue]
    simp only [if_true, he]
    exact ⟨e, rfl⟩

/-- The name of a field, or its value, is not read. -/
inductive RefusesField (height : Nat) : Text → Prop
  | name {body : Text} (w : Text) (misspells : Misspells body) :
    RefusesField height (quoted body ++ ": " ++ w)
  | value {body s w : Text} (spells : Spells body s) (skip : ∀ t, skipSpaces (w ++ t) = w ++ t)
    (refuses : Refuses height w) : RefusesField height (quoted body ++ ": " ++ w)

variable {height : Nat}

theorem RefusesField.head?_eq {t : Text} (h : RefusesField height t) :
    t.head? = some Point.quotationMark := by
  cases h <;> rfl

/-- One field that is not read. -/
theorem readFields_refused {t : Text} (h : RefusesField height t) {depth fuel : Nat}
    (hdepth : depth + height ≤ deepest) (hfuel : t.length ≤ fuel) {s : Text} (hclosed : Closed s)
    (es : Entries) : ∃ e, readFields depth (fuel + 1) es (t ++ s) = .error e := by
  have hfield : ∀ body w : Text, quoted body ++ ": " ++ w ++ s = Point.quotationMark ::
      (body ++ Point.quotationMark :: (Point.ofChar ':' :: Point.space :: (w ++ s))) := by
    intro body w
    rw [List.append_assoc, List.append_assoc, quoted_append]
    rfl
  cases h with
  | @name body w misspells =>
    obtain ⟨e, he⟩ := misspells (quoted body ++ ": " ++ w ++ s).length
      (Point.ofChar ':' :: Point.space :: (w ++ s))
    rw [hfield] at he ⊢
    rw [readFields]
    simp only [if_true, he]
    exact ⟨e, rfl⟩
  | @value body s' w spells skip refuses =>
    have hlength : w.length ≤ fuel := by
      rw [List.length_append] at hfuel
      omega
    obtain ⟨e, he⟩ := refuses depth fuel s hdepth hlength hclosed
    have hvalue : skipSpaces (Point.space :: (w ++ s)) = w ++ s :=
      (List.dropWhile_cons_of_pos (by decide)).trans (skip s)
    rw [hfield, readFields]
    simp only [if_true, spells _ _]
    dsimp only [bind, Except.bind]
    rw [skipSpaces_cons (by decide)]
    simp only [if_true, hvalue, he]
    exact ⟨e, rfl⟩

/-! ## Objects -/

variable (l : Layout)

/-- Fields up to the brace of their object, one of which is not read. -/
theorem readFields_join_refused {ts : List Text}
    (hall : ∀ t ∈ ts, (∃ e, ReadsField height t e) ∨ RefusesField height t)
    (hill : ∃ t ∈ ts, RefusesField height t) {depth fuel : Nat} (hdepth : depth + height ≤ deepest)
    (k j : Nat) (hfuel : (Text.join (l.separator k) ts).length < fuel) (rest : Text)
    (es : Entries) :
    ∃ e, readFields depth fuel es (Text.join (l.separator k) ts ++
      (l.breakAt j ++ Point.closeBrace :: rest)) = .error e := by
  induction ts generalizing fuel es with
  | nil =>
    obtain ⟨t, ht, -⟩ := hill
    cases ht
  | cons t ts ih =>
    obtain ⟨fuel, rfl⟩ := Nat.exists_eq_succ_of_ne_zero (Nat.ne_zero_of_lt hfuel)
    obtain ⟨ht, hts⟩ := List.forall_mem_cons.mp hall
    cases ts with
    | nil =>
      obtain ⟨t', ht', hrefuses⟩ := hill
      obtain rfl := List.mem_singleton.mp ht'
      exact readFields_refused hrefuses hdepth (Nat.le_of_lt_succ hfuel)
        (closed_breakAt l _ (by decide) _) es
    | cons t' ts =>
      rw [Text.join_cons_cons, List.length_append, List.length_append] at hfuel
      by_cases hrefuses : RefusesField height t
      · rw [Text.join_cons_cons, List.append_assoc, List.append_assoc]
        exact readFields_refused hrefuses hdepth (by omega) (closed_separator l _ _) es
      obtain ⟨e, he⟩ := ht.resolve_right hrefuses
      have hhead : t'.head? = some Point.quotationMark := by
        rcases hts t' List.mem_cons_self with ⟨e', he'⟩ | ht'
        · exact he'.head?_eq
        · exact ht'.head?_eq
      have hseparator := length_separator_pos l k
      rw [readFields_cons l he hhead hdepth (by omega)]
      exact ih hts (((List.exists_mem_cons_iff _ _ _).mp hill).resolve_left hrefuses) (by omega) _

/-- **An object with a field that is not read** is not read. -/
theorem refuses_object {ts : List Text}
    (hall : ∀ t ∈ ts, (∃ e, ReadsField height t e) ∨ RefusesField height t)
    (hill : ∃ t ∈ ts, RefusesField height t) (depth : Nat) :
    Refuses (height + 1) (l.enclose depth Point.openBrace Point.closeBrace ts) := by
  intro d fuel rest hdepth hfuel _
  cases ts with
  | nil =>
    obtain ⟨t, ht, -⟩ := hill
    cases ht
  | cons t ts =>
    have hlength : (Text.join (l.separator (depth + 1)) (t :: ts)).length + 2 ≤
        (l.enclose depth Point.openBrace Point.closeBrace (t :: ts)).length :=
      length_enclose l (List.cons_ne_nil t ts)
    have hhead : t.head? = some Point.quotationMark := by
      rcases hall t List.mem_cons_self with ⟨e, he⟩ | ht
      · exact he.head?_eq
      · exact ht.head?_eq
    obtain ⟨fuel, rfl⟩ : ∃ n, fuel = n + 1 := Nat.exists_eq_succ_of_ne_zero (by omega)
    obtain ⟨e, he⟩ := readFields_join_refused l hall hill (by omega : d + 1 + height ≤ deepest)
      (depth + 1) depth (by omega : _ < fuel) rest []
    rw [readValue_object l hhead ts (by omega : d < deepest), he]
    exact ⟨e, rfl⟩

/-! ## Whole texts -/

theorem Refuses.read {t : Text} (h : Refuses height t) (hheight : height ≤ deepest)
    (hskip : skipSpaces t = t) : ∃ e, Json.read t = .error e := by
  obtain ⟨e, he⟩ := h 0 (2 * t.length + 2) [] (by omega) (by omega) nofun
  rw [List.append_nil] at he
  rw [Json.read]
  split_ifs
  · exact ⟨_, rfl⟩
  · rw [hskip, he]
    exact ⟨e, rfl⟩

end HiveScript.Json
