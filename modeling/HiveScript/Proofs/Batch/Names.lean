import HiveScript.Proofs.Batch.Plans

/-!
# Names in a directory

Scripts in one directory get their names one after the other. Each gets the first of its candidates
that no earlier script has, in capital or small letters, and there are as many names in its way as
there are earlier scripts.

* `Targets.FirstFree`: the first free candidate; **`firstFree_choose`**.
* `Targets.exists_spread_eq`: the names of scripts beside names that are taken.
* **`Run.planTargets_names`**: the names of all scripts.
-/

namespace HiveScript

/-! ## One name -/

namespace Targets

/-- The `n`-th candidate is the first one that is not taken. -/
structure FirstFree (taken : List Text) (stem name : Text) (n : Nat) : Prop where
  pos : 1 ≤ n
  name_eq : name = candidate stem n
  free : name.lowercase ∉ taken
  earlier : ∀ k, 1 ≤ k → k < n → (candidate stem k).lowercase ∈ taken

variable {taken taken' : List Text} {stem name : Text} {n : Nat}

theorem FirstFree.congr (h : FirstFree taken stem name n) (hiff : ∀ t, t ∈ taken ↔ t ∈ taken') :
    FirstFree taken' stem name n where
  pos := h.pos
  name_eq := h.name_eq
  free hmem := h.free ((hiff _).mpr hmem)
  earlier k hk hkn := (hiff _).mp (h.earlier k hk hkn)

/-- The search goes on from its start, not farther than it may, and past taken candidates only. -/
theorem chooseFrom_bounds (taken : List Text) (stem : Text) (fuel n : Nat) :
    n ≤ chooseFrom taken stem fuel n ∧ chooseFrom taken stem fuel n ≤ n + fuel ∧
      ∀ k, n ≤ k → k < chooseFrom taken stem fuel n → (candidate stem k).lowercase ∈ taken := by
  induction fuel generalizing n with
  | zero => exact ⟨le_rfl, le_rfl, fun k hle hlt => absurd hlt (not_lt.mpr hle)⟩
  | succ fuel ih =>
    rw [chooseFrom]
    split_ifs with htaken
    · obtain ⟨hle, hbound, hearlier⟩ := ih (n + 1)
      refine ⟨by omega, by omega, fun k hk hlt => ?_⟩
      rcases Nat.eq_or_lt_of_le hk with rfl | hnk
      · exact List.contains_iff_mem.mp htaken
      · exact hearlier k hnk hlt
    · exact ⟨le_rfl, Nat.le_add_right _ _, fun k hle hlt => absurd hlt (not_lt.mpr hle)⟩

/-- **The chosen candidate is the first free one**, and is found among as many as there are names
that are taken and one more. -/
theorem firstFree_choose (taken : List Text) (stem : Text) :
    FirstFree taken stem (candidate stem (choose taken stem)) (choose taken stem) ∧
      choose taken stem ≤ taken.length + 1 := by
  obtain ⟨hpos, hbound, hearlier⟩ := chooseFrom_bounds taken stem taken.length 1
  exact ⟨⟨hpos, rfl, lowercase_candidate_choose_notMem taken stem, hearlier⟩, by
    rw [choose]
    omega⟩

end Targets

/-! ## All names -/

/-- The stem of the script of an input. -/
def Source.stemOf (input : Text) : Text :=
  if input = hyphenName then "stdin" else (Path.ofText input).stem

theorem Source.stem_ofText (input : Text) : (ofText input).stem = .ok (stemOf input) := by
  rw [ofText, stemOf]
  split_ifs
  · rfl
  · rfl

namespace Targets

/-- Scripts in a directory get their names one after the other. -/
theorem exists_spread_eq (directory : Path) (taken inputs : List Text) :
    ∃ names : List Text,
      spread directory taken (inputs.map Source.ofText) =
        .ok (names.map fun name => some (directory.child name)) ∧
      names.length = inputs.length ∧
      ∀ i (hn : i < names.length) (hi : i < inputs.length), ∃ n ≤ taken.length + i + 1,
        FirstFree ((names.take i).map Text.lowercase ++ taken) (Source.stemOf inputs[i])
          names[i] n := by
  induction inputs generalizing taken with
  | nil => exact ⟨[], rfl, rfl, fun i hn => absurd hn (Nat.not_lt_zero i)⟩
  | cons input inputs ih =>
    set name := candidate (Source.stemOf input) (choose taken (Source.stemOf input)) with hname
    obtain ⟨names, hspread, hlength, hfirst⟩ := ih (name.lowercase :: taken)
    refine ⟨name :: names, ?_, congrArg (· + 1) hlength, fun i hn hi => ?_⟩
    · rw [List.map_cons, spread, Source.stem_ofText]
      dsimp only [bind, Except.bind]
      rw [← hname, hspread]
      rfl
    · cases i with
      | zero =>
        obtain ⟨hfree, hbound⟩ := firstFree_choose taken (Source.stemOf input)
        exact ⟨_, hbound, hfree⟩
      | succ i =>
        obtain ⟨n, hbound, hfree⟩ :=
          hfirst i (Nat.lt_of_succ_lt_succ hn) (Nat.lt_of_succ_lt_succ hi)
        rw [List.length_cons] at hbound
        refine ⟨n, by omega, hfree.congr fun t => ?_⟩
        rw [List.take_succ_cons, List.map_cons, List.cons_append, List.mem_append, List.mem_cons,
          List.mem_cons, List.mem_append]
        exact or_left_comm

/-- Names that are free beside all earlier ones are told apart. -/
theorem nodup_of_notMem_take {names : List Text}
    (h : ∀ i (hi : i < names.length), names[i].lowercase ∉ (names.take i).map Text.lowercase) :
    (names.map Text.lowercase).Nodup := by
  refine List.pairwise_iff_getElem.mpr fun i j hi hj hij heq => ?_
  rw [List.length_map] at hi hj
  rw [List.getElem_map, List.getElem_map] at heq
  refine h j hj (heq ▸ List.mem_map_of_mem ?_)
  exact List.mem_take_iff_getElem.mpr ⟨i, by omega, rfl⟩

end Targets

/-! ## Plans -/

namespace Settings

/-- The inputs of settings that list them; without any, the hyphen for the standard input. -/
def inputsOf (inputs : List Text) : List Text :=
  if inputs.isEmpty then [Source.hyphenName] else inputs

theorem sources_of_texts {s : Settings} {inputs : List Text} (h : s.get "inputs" = .texts inputs) :
    s.sources = .ok ((inputsOf inputs).map Source.ofText) := by
  cases inputs with
  | nil =>
    rw [sources, h]
    rfl
  | cons input inputs =>
    have hvalues : ((input :: inputs).map Value.text).map Source.ofValue =
        (input :: inputs).map Source.ofText := List.map_map
    rw [sources, h]
    exact congrArg Except.ok hvalues

end Settings

namespace Run

/-- **The names of scripts in a directory**: one for each input in their order, told apart without
regard to capitals, and each the first candidate that is free beside the names of earlier inputs,
among as many candidates as there are such names and one more. -/
theorem planTargets_names {s : Settings} {w : World} {inputs : List Text} {directory : Path}
    (houtput : s.has "output" = false) (hhas : s.has "output_dir" = true)
    (hinputs : s.get "inputs" = .texts inputs)
    (hdirectory : Settings.pathIn w.home (s.get "output_dir") = .ok directory) :
    ∃ names : List Text,
      ((planTargets s).after w).1 = .ok (names.map fun name => some (directory.child name)) ∧
      (∀ name ∈ names, Targets.ScriptName name) ∧
      (names.map Text.lowercase).Nodup ∧
      names.length = (Settings.inputsOf inputs).length ∧
      ∀ i (hn : i < names.length) (hi : i < (Settings.inputsOf inputs).length), ∃ n ≤ i + 1,
        Targets.FirstFree ((names.take i).map Text.lowercase)
          (Source.stemOf (Settings.inputsOf inputs)[i]) names[i] n := by
  obtain ⟨names, hspread, hlength, hfirst⟩ :=
    Targets.exists_spread_eq directory [] (Settings.inputsOf inputs)
  simp only [List.length_nil, Nat.zero_add, List.append_nil] at hfirst
  have hplan : s.plan w.home = .ok (names.map fun name => some (directory.child name)) := by
    rw [Settings.plan, if_neg (Bool.eq_false_iff.mp houtput), if_pos hhas, hdirectory,
      Settings.sources_of_texts hinputs]
    exact hspread
  refine ⟨names, planTargets_eq_ok_iff.mpr hplan, fun name hname => ?_, ?_, hlength, hfirst⟩
  · obtain ⟨i, hn, rfl⟩ := List.getElem_of_mem hname
    obtain ⟨n, -, hfree⟩ := hfirst i hn (hlength ▸ hn)
    rw [hfree.name_eq]
    exact Targets.scriptName_candidate (Source.slash_notMem_stem (Source.stem_ofText _)) n
  · refine Targets.nodup_of_notMem_take fun i hn => ?_
    obtain ⟨n, -, hfree⟩ := hfirst i hn (hlength ▸ hn)
    exact hfree.free

/-- Two inputs of one stem, one whose stem looks numbered, and the standard input. -/
theorem planTargets_names_numbered :
    let s : Settings := [("output_dir", .text "~/out"),
      ("inputs", .texts ["a/x.reg", "b/X.reg", "x-2.reg", "-"])]
    let w : World := ⟨.empty [], "/home", ⟨0⟩, 1, .text [], ⟨.strict, false, []⟩,
      ⟨.verbatim, true, []⟩, .initial, fun _ => ⟨.verbatim, false, []⟩⟩
    s.has "output" = false ∧ s.has "output_dir" = true ∧
      ∃ directory, Settings.pathIn w.home (s.get "output_dir") = .ok directory ∧
        directory.text = "/home/out" ∧
        ∃ names : List Text, ((planTargets s).after w).1 =
            .ok (names.map fun name => some (directory.child name)) ∧
          (names.map Text.lowercase).Nodup ∧
          names = ["x.ps1", "X-2.ps1", "x-2-2.ps1", "stdin.ps1"] := by
  intro s w
  have hdirectory : Settings.pathIn w.home (s.get "output_dir") = .ok ⟨"/", ["home", "out"]⟩ := rfl
  obtain ⟨names, hplanned, -, hnodup, -, -⟩ :=
    planTargets_names (s := s) (w := w) rfl rfl rfl hdirectory
  have hspread : ((planTargets s).after w).1 =
      .ok ((["x.ps1", "X-2.ps1", "x-2-2.ps1", "stdin.ps1"] : List Text).map fun name =>
        some ((⟨"/", ["home", "out"]⟩ : Path).child name)) := rfl
  have hinjective : Function.Injective fun name =>
      some ((⟨"/", ["home", "out"]⟩ : Path).child name) := fun a b hab => by
    simpa [Path.child] using hab
  exact ⟨rfl, rfl, _, hdirectory, rfl, names, hplanned, hnodup,
    List.map_injective_iff.mpr hinjective (Except.ok.inj (hplanned.symm.trans hspread))⟩

end Run

end HiveScript
