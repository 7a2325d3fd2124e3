import HiveScript.Proofs.Conversion.Lines
import HiveScript.Proofs.Conversion.Step

/-!
# Runs over lines

A run carries one thing from line to line: the key that is open.

* `openKey`: the path of the last header among some lines; `openKey_ne_none_iff`.
* **`runFrom_append_of_accepted`**, `runFrom_append_of_refused`: a run over two parts is the run
  over the first one and, unless that one ends in a refusal, the run over the second one from the
  key that the first one leaves open.
* **`exists_refused_line`**: the line that ends a run, after a part that is accepted.
* `Yields`: the commands of some lines, each line read under the key that the line before it leaves
  open; `yields_iff`: a run without a refusal finds them.
* **`convert_eq_ok_iff`**: the script of a text is that of the commands of its significant lines.
-/

namespace HiveScript.Conversion

/-! ## The open key -/

/-- The key that is open after some lines. -/
def openKey : Option Text → List (Nat × Text) → Option Text
  | key, [] => key
  | key, l :: ls => openKey ((opened? l.2).or key) ls

theorem openKey_ne_none_iff {key : Option Text} {ls : List (Nat × Text)} :
    openKey key ls ≠ none ↔ key ≠ none ∨ ∃ l ∈ ls, Opens l.2 := by
  induction ls generalizing key with
  | nil => simp [openKey]
  | cons l ls ih =>
    rw [openKey, ih, ne_eq, Option.or_eq_none_iff, not_and_or, ← ne_eq, opened?_ne_none_iff,
      List.exists_mem_cons_iff]
    tauto

/-! ## Runs over parts -/

section

variable {key : Option Text} {n : Nat} {line : Text}

theorem runFrom_cons_of_ok {c : Command} (h : command key n line = .ok c)
    (ls : List (Nat × Text)) : runFrom key ((n, line) :: ls) =
      ((n, c) :: (runFrom ((opened? line).or key) ls).1,
        (runFrom ((opened? line).or key) ls).2) := by
  rw [runFrom, h, ← (command_eq_ok_iff.mp h).key_eq]

theorem runFrom_cons_of_error {r : Refusal} (h : command key n line = .error r)
    (ls : List (Nat × Text)) : runFrom key ((n, line) :: ls) = ([], some r) := by
  rw [runFrom, h]

variable {pre : List (Nat × Text)} {cs : List (Nat × Command)}

theorem runFrom_append_of_accepted (h : runFrom key pre = (cs, none)) (post : List (Nat × Text)) :
    runFrom key (pre ++ post) =
      (cs ++ (runFrom (openKey key pre) post).1, (runFrom (openKey key pre) post).2) := by
  induction pre generalizing key cs with
  | nil =>
    obtain rfl : cs = [] := (congrArg Prod.fst h).symm
    rfl
  | cons l pre ih =>
    obtain ⟨n, line⟩ := l
    cases hc : command key n line with
    | error r => rw [runFrom_cons_of_error hc] at h; cases h
    | ok c =>
      rw [runFrom_cons_of_ok hc, Prod.mk.injEq] at h
      rw [List.cons_append, runFrom_cons_of_ok hc, ih (Prod.ext rfl h.2), ← h.1]
      rfl

theorem runFrom_append_of_refused {r : Refusal} (h : runFrom key pre = (cs, some r))
    (post : List (Nat × Text)) : runFrom key (pre ++ post) = (cs, some r) := by
  induction pre generalizing key cs with
  | nil => cases h
  | cons l pre ih =>
    obtain ⟨n, line⟩ := l
    cases hc : command key n line with
    | error r' => rwa [List.cons_append, runFrom_cons_of_error hc, ← runFrom_cons_of_error hc pre]
    | ok c =>
      rw [runFrom_cons_of_ok hc, Prod.mk.injEq] at h
      rw [List.cons_append, runFrom_cons_of_ok hc, ih (Prod.ext rfl h.2), ← h.1]

/-- A part of an accepted list from its beginning on is accepted. -/
theorem accepted_of_append {post : List (Nat × Text)}
    (h : (runFrom key (pre ++ post)).2 = none) : (runFrom key pre).2 = none := by
  cases hp : (runFrom key pre).2 with
  | none => rfl
  | some r =>
    rw [runFrom_append_of_refused (Prod.ext rfl hp)] at h
    cases h

/-- An accepted list holds a line that is accepted under the key that is open there. -/
theorem exists_command_eq_ok {post : List (Nat × Text)}
    (h : (runFrom key (pre ++ (n, line) :: post)).2 = none) :
    ∃ c, command (openKey key pre) n line = .ok c := by
  cases hc : command (openKey key pre) n line with
  | ok c => exact ⟨c, rfl⟩
  | error r =>
    rw [runFrom_append_of_accepted (Prod.ext rfl (accepted_of_append h)),
      runFrom_cons_of_error hc] at h
    cases h

/-- **A refused list is refused at a line after an accepted part.** -/
theorem exists_refused_line {ls : List (Nat × Text)} {r : Refusal}
    (h : (runFrom key ls).2 = some r) : ∃ pre n line post, ls = pre ++ (n, line) :: post ∧
      (runFrom key pre).2 = none ∧ command (openKey key pre) n line = .error r := by
  induction ls generalizing key with
  | nil => cases h
  | cons l ls ih =>
    obtain ⟨n, line⟩ := l
    cases hc : command key n line with
    | error r' =>
      rw [runFrom_cons_of_error hc, Option.some.injEq] at h
      exact ⟨[], n, line, ls, rfl, rfl, h ▸ hc⟩
    | ok c =>
      rw [runFrom_cons_of_ok hc] at h
      obtain ⟨pre, m, line', post, rfl, hp, he⟩ := ih h
      exact ⟨(n, line) :: pre, m, line', post, rfl, by rw [runFrom_cons_of_ok hc, hp], he⟩

end

/-! ## Accepted texts -/

/-- The commands of lines, from an open key on. -/
inductive Yields : Option Text → List Text → List Command → Prop
  | nil (key : Option Text) : Yields key [] []
  | cons {key : Option Text} {line : Text} {c : Command} {lines : List Text} {cs : List Command}
      (head : Becomes key line c) (tail : Yields (some c.key) lines cs) :
      Yields key (line :: lines) (c :: cs)

/-- A run without a refusal finds the commands of its lines, and the commands are found so only. -/
theorem yields_iff {key : Option Text} {ls : List (Nat × Text)} {cs : List Command} :
    Yields key (ls.map Prod.snd) cs ↔
      (runFrom key ls).2 = none ∧ (runFrom key ls).1.map Prod.snd = cs := by
  induction ls generalizing key cs with
  | nil =>
    refine ⟨fun h => ?_, fun h => ?_⟩
    · cases h
      exact ⟨rfl, rfl⟩
    · rw [← h.2]
      exact .nil key
  | cons l ls ih =>
    obtain ⟨n, line⟩ := l
    cases hc : command key n line with
    | error r =>
      rw [runFrom_cons_of_error hc]
      refine ⟨fun h => ?_, fun h => by cases h.1⟩
      cases h with
      | cons hb _ =>
        rw [command_eq_ok_iff.mpr hb] at hc
        cases hc
    | ok c =>
      have hb : Becomes key line c := command_eq_ok_iff.mp hc
      rw [runFrom_cons_of_ok hc, ← hb.key_eq, List.map_cons, List.map_cons]
      constructor
      · intro h
        cases h with
        | cons hb' ht =>
          rw [command_eq_ok_iff.mpr hb', Except.ok.injEq] at hc
          obtain ⟨hn, hs⟩ := ih.mp ht
          rw [← hc]
          exact ⟨hn, by rw [hs]⟩
      · rintro ⟨hn, rfl⟩
        exact .cons hb (ih.mpr ⟨hn, rfl⟩)

/-- **A text has the script of the commands of its significant lines.** -/
theorem convert_eq_ok_iff {s script : Text} : convert s = .ok script ↔
    ¬ s.isBlank = true ∧ ∃ cs, Yields none ((significantLines s).map Prod.snd) cs ∧
      script = scriptOf cs := by
  by_cases hs : s.isBlank = true
  · simp [convert, run, hs]
  · rw [convert, run, if_neg hs]
    simp only [hs, yields_iff]
    split
    next cs h => simp [h, eq_comm]
    next cs r h => simp [h]

/-- The outcome of a text is compared as an option, which can be decided. -/
theorem convert_eq_ok_of_toOption {s script : Text} (h : (convert s).toOption = some script) :
    convert s = .ok script := by
  cases hc : convert s with
  | ok t =>
    rw [hc] at h
    rw [Option.some.inj h]
  | error r =>
    rw [hc] at h
    cases h

end HiveScript.Conversion
