import HiveScript.Fault.Basic
import HiveScript.Proofs.Value.Integer

/-!
# Exit codes of faults

Whatever is given for the exit code of a fault, the code is one octet, unless what is given is an
infinite number: of that there is no fault at all.

* `Fault.IsCodeOf`: the exit code of a value; `isCodeOf_of_codeOf_eq`, `codeOf_eq_error_iff`.
* `Fault.Kind.Overlong`: a line whose number does not go into the message.
* **`codes_clamped`**: when there is a fault, and with which code.
* `codes_infinite`: infinite codes.
-/

namespace HiveScript.Fault

/-! ## Codes of values -/

/-- The exit code of a value: the integer that it stands for, one if that is negative or if there is
none, and 255 if it is greater. -/
inductive IsCodeOf (v : Value) : Nat → Prop
  | inRange {n : Nat} (stands : v.StandsFor n) (le : n ≤ 255) : IsCodeOf v n
  | negative {i : Int} (stands : v.StandsFor i) (lt : i < 0) : IsCodeOf v 1
  | tooGreat {i : Int} (stands : v.StandsFor i) (lt : 255 < i) : IsCodeOf v 255
  | none (none : ∀ i, ¬ v.StandsFor i) : IsCodeOf v 1

variable {v : Value} {n : Nat} {i : Int}

theorem IsCodeOf.le (h : IsCodeOf v n) : n ≤ 255 := by
  cases h with
  | inRange _ le => exact le
  | negative | tooGreat | none => decide

theorem isCodeOf_clampCode (stands : v.StandsFor i) : IsCodeOf v (clampCode i) := by
  rw [clampCode]
  split_ifs with hneg hgreat
  · exact .negative stands hneg
  · exact .tooGreat stands hgreat
  · have hi : (i.toNat : Int) = i := Int.toNat_of_nonneg (not_lt.mp hneg)
    exact .inRange (hi.symm ▸ stands) (by omega)

theorem isCodeOf_of_codeOf_eq (h : codeOf v = .ok n) : IsCodeOf v n := by
  rw [codeOf] at h
  split at h
  · next i hi =>
    obtain rfl := Except.ok.inj h
    exact isCodeOf_clampCode (Value.toInt_eq_ok_iff.mp hi)
  · cases h
  · next hi =>
    obtain rfl := Except.ok.inj h
    refine .none fun i stands => ?_
    rw [Value.toInt_eq_ok_iff.mpr stands] at hi
    cases hi

/-- **Infinite numbers are refused**, and nothing else is. -/
theorem codeOf_eq_error_iff {failure : Failure} :
    codeOf v = .error failure ↔ failure = .infiniteInteger ∧ v.IsInfinite := by
  rw [← Value.toInt_eq_infiniteInteger_iff, codeOf]
  split
  · next hi =>
    rw [hi]
    exact iff_of_false nofun fun h => nomatch h.2
  · next hi =>
    rw [hi, and_iff_left rfl, Except.error.injEq]
    exact eq_comm
  · next hne hi =>
    rw [hi]
    exact iff_of_false nofun fun h => hne (Except.error.inj h.2)

/-! ## Faults -/

/-- The message is to name a line whose number is too long for it. -/
inductive Kind.Overlong : Kind → Text → Prop
  | line {reason : Reason} {i : Int} (names : reason.namesLine = true)
    (le : Numeral.limit ≤ i.natAbs) : Overlong (.conversion reason (some i)) []

section

variable {kind : Kind} {code : Value} {message : Text} {context : List (Text × Value)}

theorem Kind.isWritable_iff : kind.isWritable message = true ↔ ¬ kind.Overlong message := by
  match kind with
  | .general | .fatal => exact iff_of_true rfl nofun
  | .conversion reason none =>
    refine iff_of_true ?_ nofun
    rw [isWritable, namedLine?, ite_self]
    rfl
  | .conversion reason (some i) =>
    rw [isWritable, namedLine?]
    by_cases hnames : (message.isEmpty && reason.namesLine) = true
    · rw [if_pos hnames, Option.all_some, Numeral.ofInt?]
      obtain ⟨hempty, hreason⟩ := Bool.and_eq_true_iff.mp hnames
      obtain rfl := List.isEmpty_iff.mp hempty
      split_ifs with hshort
      · refine iff_of_true rfl ?_
        rintro ⟨-, le⟩
        exact absurd hshort (not_lt.mpr le)
      · exact iff_of_false nofun fun h => h ⟨hreason, not_lt.mp hshort⟩
    · rw [if_neg hnames]
      refine iff_of_true rfl ?_
      rintro ⟨names, -⟩
      exact hnames (by rw [names]; rfl)

/-- A message that can be written leaves the code to decide. -/
theorem make_of_not_overlong (h : ¬ kind.Overlong message) :
    make kind (some code) (some message) context =
      (codeOf code).map fun n => ⟨kind, n, messageOf kind message, context⟩ :=
  if_pos (Kind.isWritable_iff.mpr h)

theorem make_of_overlong (h : kind.Overlong message) :
    make kind (some code) (some message) context = .error .numeralNotWritten :=
  if_neg fun hwritable => Kind.isWritable_iff.mp hwritable h

end

/-- **Exit codes are clamped.** Whatever is given for its parts, there is a fault, and its exit code
is one octet, that of what is given for the code. The exceptions are infinite numbers, and a line
whose number is too long for the message that is to name it. -/
theorem codes_clamped (kind : Kind) (code : Value) (message : Text)
    (context : List (Text × Value)) :
    (∀ failure, make kind (some code) (some message) context = .error failure ↔
      failure = .numeralNotWritten ∧ kind.Overlong message ∨
      failure = .infiniteInteger ∧ code.IsInfinite ∧ ¬ kind.Overlong message) ∧
    (¬ code.IsInfinite → ¬ kind.Overlong message →
      ∃ f, make kind (some code) (some message) context = .ok f ∧
        f.kind = kind ∧ f.context = context ∧ f.code ≤ 255 ∧ IsCodeOf code f.code) := by
  by_cases hline : kind.Overlong message
  · rw [make_of_overlong hline]
    refine ⟨fun failure => ⟨fun h => .inl ⟨(Except.error.inj h).symm, hline⟩, ?_⟩,
      fun _ h => absurd hline h⟩
    rintro (⟨rfl, -⟩ | ⟨-, -, h⟩)
    · rfl
    · exact absurd hline h
  · rw [make_of_not_overlong hline]
    cases hcode : codeOf code with
    | ok n =>
      have hn := isCodeOf_of_codeOf_eq hcode
      refine ⟨fun failure => iff_of_false nofun ?_, fun _ _ => ⟨_, rfl, rfl, rfl, hn.le, hn⟩⟩
      rintro (⟨-, h⟩ | ⟨-, h, -⟩)
      · exact hline h
      · cases hcode.symm.trans (codeOf_eq_error_iff.mpr ⟨rfl, h⟩)
    | error failure =>
      obtain ⟨rfl, hinfinite⟩ := codeOf_eq_error_iff.mp hcode
      refine ⟨fun failure => ⟨fun h => .inr ⟨(Except.error.inj h).symm, hinfinite, hline⟩, ?_⟩,
        fun h => absurd hinfinite h⟩
      rintro (⟨-, h⟩ | ⟨rfl, -⟩)
      · exact absurd h hline
      · rfl

/-- A numeral with blanks around it and a low line. -/
theorem codes_clamped_numeral : ∃ f,
    make (.conversion .missingEquals (some 4)) (some (.text " 1_000 ")) (some "m") [] = .ok f ∧
    f.code = 255 ∧ f.code ≤ 255 ∧ IsCodeOf (.text " 1_000 ") f.code := by
  have hline : ¬ Kind.Overlong (.conversion .missingEquals (some 4)) "m" := nofun
  have hread : codeOf (.text " 1_000 ") = .ok 255 := by decide +kernel
  obtain ⟨f, hf, -, -, hle, hcode⟩ :=
    (codes_clamped (.conversion .missingEquals (some 4)) (.text " 1_000 ") "m" []).2
      (by rintro ⟨_, ⟨⟩⟩) hline
  have hmake := hf
  rw [make_of_not_overlong hline, hread] at hmake
  obtain rfl := Except.ok.inj hmake
  exact ⟨_, hf, rfl, hle, hcode⟩

/-- Of an infinite number, which stands for no integer, the exit code would be one. -/
theorem codes_infinite :
    IsCodeOf (.float (.infinite false)) 1 ∧
    make .fatal (some (.float (.infinite false))) (some "m") [] = .error .infiniteInteger ∧
    ¬ ∃ f, make .fatal (some (.float (.infinite false))) (some "m") [] = .ok f := by
  have hmake : make .fatal (some (.float (.infinite false))) (some "m") [] =
      .error .infiniteInteger := make_of_not_overlong nofun
  refine ⟨.none fun i h => ?_, hmake, ?_⟩
  · cases h with
    | number counts => cases counts
  · rintro ⟨f, hf⟩
    cases hmake.symm.trans hf

end HiveScript.Fault
