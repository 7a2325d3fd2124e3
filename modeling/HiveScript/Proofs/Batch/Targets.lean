import HiveScript.Program.Checks
import HiveScript.Proofs.Batch.Candidates
import HiveScript.Proofs.Disk.Paths
import HiveScript.Proofs.Options.CommandLines
import HiveScript.Proofs.Run.Triple
import Mathlib.Data.List.ReduceOption

/-!
# Planned targets

Which targets settings ask for once they are checked. The checks look for a text with something in
it where the plan looks for a text that is not empty, so that they differ on blanks.

* `Planned`: one file for all scripts, a file for each in a directory, or no files.
* **`answers_planTargets`**: these are all the plans there are.
* `answers_checkSettings`: what holds of checked settings.
* **`Planned.nodup_iff`**: targets are told apart unless several scripts go to one file.
-/

namespace HiveScript

/-! ## Settings -/

namespace Settings

theorem sources_put_inputs (s : Settings) {inputs : List Text} (h : inputs ≠ []) :
    (s.put "inputs" (.texts inputs)).sources = .ok (inputs.map Source.ofText) := by
  have htrue : (Value.texts inputs).isTrue = true := by
    cases inputs with
    | nil => exact absurd rfl h
    | cons name inputs => rfl
  simp only [sources, get_put_self, htrue, if_true]
  change Except.ok ((inputs.map Value.text).map Source.ofValue) = _
  rw [List.map_map]
  rfl

/-- Several scripts go to one file. -/
def SharesFile (s : Settings) : Prop :=
  s.has "output" = true ∧ ∃ sources, s.sources = .ok sources ∧ 1 < sources.length

/-- Several scripts go to one file, whose name is nothing but blanks. -/
def SharesBlankFile (s : Settings) : Prop :=
  (∃ name, s.get "output" = .text name ∧ name ≠ [] ∧ name.isBlank = true) ∧
    ∃ sources, s.sources = .ok sources ∧ 1 < sources.length

end Settings

/-- Only blanks count as set and are not there. -/
theorem Value.isTrue_and_not_isPresent_iff {v : Value} :
    v.isTrue = true ∧ v.isPresent = false ↔
      ∃ name, v = .text name ∧ name ≠ [] ∧ name.isBlank = true := by
  constructor
  · rintro ⟨htrue, hpresent⟩
    match v with
    | .text name =>
      exact ⟨name, rfl, by simpa [Value.isTrue, Scalar.isTrue] using htrue,
        by simpa [Value.isPresent] using hpresent⟩
    | .null => exact absurd htrue (by decide)
    | .bool _ | .int _ | .float _ | .date _ | .dateTime _ | .list _ | .map _ =>
      exact absurd hpresent Bool.true_eq_false.mp
  · rintro ⟨name, rfl, hname, hblank⟩
    exact ⟨by simpa [Value.isTrue, Scalar.isTrue] using hname,
      by simpa [Value.isPresent] using hblank⟩

/-! ## Checked settings -/

theorem Settings.ne_nil_of_namedInputs {s : Settings} {inputs : List Text}
    (h : s.namedInputs = .ok inputs) : inputs ≠ [] := by
  have hnames : ∀ r : Except Failure (List Text), (do
      let names ← r
      return if names.isEmpty then [Source.hyphenName] else names) = .ok inputs → inputs ≠ [] := by
    rintro (f | names) h
    · cases h
    · cases h
      cases names with
      | nil => exact List.cons_ne_nil Source.hyphenName []
      | cons name names => exact List.cons_ne_nil name names
  simp only [namedInputs] at h
  split at h
  · exact hnames _ h
  · split_ifs at h
    · exact hnames _ h
    · exact hnames _ h

namespace Run

/-- Only one script fits into a file whose name is there. -/
theorem answers_checkOutput (s : Settings) (inputs : List Text) :
    Answers (checkOutput s inputs) fun _ =>
      (s.get "output").isPresent = true → inputs.length ≤ 1 := by
  rw [checkOutput]
  refine Answers.optional (φ := True) (fun _ => Answers.any _) (fun _ => trivial) fun _ _ => ?_
  refine Answers.optional (φ := (s.get "output").isPresent = true → inputs.length ≤ 1)
    (fun _ => Answers.throw) (fun h hp => ?_) fun _ hlength => ?_
  · rw [hp, Bool.true_and, decide_eq_true_eq] at h
    exact Nat.le_of_not_lt h
  · exact (Answers.any _).mono fun _ _ => hlength

/-- What holds of settings that have passed the checks. -/
theorem answers_checkSettings (s : Settings) :
    Answers (checkSettings s) fun checked => ∃ inputs : List Text, inputs ≠ [] ∧
      checked = s.put "inputs" (.texts inputs) ∧
      ((s.get "output").isPresent = true → inputs.length ≤ 1) := by
  rw [checkSettings]
  refine (Answers.ofExcept fun inputs h => h).bind fun inputs hinputs => ?_
  refine (Answers.any _).bind fun _ _ => (answers_checkOutput s inputs).bind fun _ hlength => ?_
  refine (Answers.any _).bind fun _ _ => Answers.pure ?_
  exact ⟨inputs, Settings.ne_nil_of_namedInputs hinputs, rfl, hlength⟩

end Run

/-! ## Plans -/

theorem Path.slash_notMem_stem {p : Path} (hp : p.WellFormed) : slash ∉ p.stem := by
  have hname : slash ∉ p.name := by
    rw [Path.name]
    cases h : p.names.getLast? with
    | none => exact List.not_mem_nil
    | some n => exact (hp.names n (List.mem_of_getLast? h)).2
  rw [Path.stem]
  cases h : p.cutName? with
  | none => exact hname
  | some parts =>
    obtain ⟨a, b⟩ := parts
    rw [Path.cutName?, Option.filter_eq_some_iff, Text.cutLast?, Option.map_eq_some_iff] at h
    obtain ⟨⟨⟨c, d⟩, hcut, hparts⟩, -⟩ := h
    obtain rfl : d.reverse = a := congrArg Prod.fst hparts
    obtain ⟨hname', -⟩ := Text.cut?_eq_some_iff.mp hcut
    -- The stem is what stands before the last dot.
    intro hmem
    refine hname (List.mem_reverse.mp ?_)
    rw [hname']
    exact List.mem_append_right c (List.mem_cons_of_mem dot (List.mem_reverse.mp hmem))

theorem Source.slash_notMem_stem {source : Source} {stem : Text} (h : source.stem = .ok stem) :
    slash ∉ stem := by
  cases source with
  | standardInput =>
    cases h
    decide
  | file path =>
    cases h
    exact Path.slash_notMem_stem (Path.wellFormed_ofText path)
  | unfit v => cases h

theorem Targets.ScriptName.one_lt_length {name : Text} (h : ScriptName name) : 1 < name.length :=
  Nat.lt_of_lt_of_le (by decide) h.2.length_le

theorem Path.WellFormed.childScript {directory : Path} (h : directory.WellFormed) {n : Text}
    (hn : Targets.ScriptName n) : (directory.child n).WellFormed :=
  h.child (Path.isName_of_lt hn.one_lt_length) hn.1

/-- The targets of `n` sources that settings may ask for. -/
inductive Planned (s : Settings) : Nat → List (Option Path) → Prop
  | shared (n : Nat) (target : Path) (output : s.has "output" = true) :
    Planned s n (List.replicate n (some target))
  | spread (directory : Path) (names : List Text) (output : s.has "output" = false)
    (wellFormed : directory.WellFormed) (distinct : (names.map Text.lowercase).Nodup)
    (scriptNames : ∀ name ∈ names, Targets.ScriptName name) :
    Planned s names.length (names.map fun name => some (directory.child name))
  | printed (n : Nat) (output : s.has "output" = false) : Planned s n (List.replicate n none)

theorem reduceOption_map_some (targets : List Path) :
    (targets.map some).reduceOption = targets := by
  rw [List.reduceOption, List.filterMap_map]
  exact List.filterMap_some

/-- **Targets are told apart unless several scripts go to one file.** -/
theorem Planned.nodup_iff {s : Settings} {n : Nat} {targets : List (Option Path)}
    (h : Planned s n targets) :
    targets.reduceOption.Nodup ↔ ¬ (s.has "output" = true ∧ 1 < n) := by
  cases h with
  | shared n target output =>
    rw [← List.map_replicate, reduceOption_map_some, List.nodup_replicate]
    exact ⟨fun h hn => absurd hn.2 (Nat.not_lt.mpr h),
      fun h => Nat.not_lt.mp fun hn => h ⟨output, hn⟩⟩
  | spread directory names output wellFormed distinct scriptNames =>
    have hnodup : (names.map directory.child).Nodup := by
      refine distinct.of_map.map fun a b hab => ?_
      simpa [Path.child] using hab
    have hmap : (names.map fun name => some (directory.child name)) =
        (names.map directory.child).map some := (List.map_map).symm
    rw [hmap, reduceOption_map_some]
    exact iff_of_true hnodup fun h => Bool.false_ne_true (output.symm.trans h.1)
  | printed n output =>
    rw [List.reduceOption_replicate_none]
    exact iff_of_true List.nodup_nil fun h => Bool.false_ne_true (output.symm.trans h.1)

namespace Run

/-- Scripts in a directory get names that are told apart without regard to capitals. -/
theorem answers_targetsIn (directory : Path) (sources : List Source) (taken : List Text) :
    Answers (targetsIn directory taken sources) fun targets =>
      ∃ names : List Text, names.length = sources.length ∧
        targets = names.map (fun name => some (directory.child name)) ∧
        (names.map Text.lowercase).Nodup ∧
        ∀ name ∈ names, name.lowercase ∉ taken ∧ Targets.ScriptName name := by
  induction sources generalizing taken with
  | nil => exact Answers.pure ⟨[], rfl, rfl, List.nodup_nil, fun _ h => absurd h List.not_mem_nil⟩
  | cons source sources ih =>
    rw [targetsIn]
    refine (Answers.ofExcept fun stem h => h).bind fun stem hstem => ?_
    set name := Targets.candidate stem (Targets.choose taken stem) with hname
    refine Answers.optional (φ := True) (fun _ => Answers.any _) (fun _ => trivial) fun _ _ => ?_
    refine (ih (name.lowercase :: taken)).bind fun targets h => Answers.pure ?_
    obtain ⟨names, hlength, rfl, hnodup, hnames⟩ := h
    have hfree : name.lowercase ∉ taken := Targets.lowercase_candidate_choose_notMem taken stem
    have hnew : name.lowercase ∉ names.map Text.lowercase := by
      intro h
      obtain ⟨other, hother, he⟩ := List.mem_map.mp h
      exact (hnames other hother).1 (he ▸ List.mem_cons_self)
    refine ⟨name :: names, congrArg (· + 1) hlength, rfl, List.nodup_cons.mpr ⟨hnew, hnodup⟩, ?_⟩
    rw [List.forall_mem_cons]
    refine ⟨⟨hfree, Targets.scriptName_candidate (source.slash_notMem_stem hstem) _⟩, ?_⟩
    exact fun other hother => ⟨fun h => (hnames other hother).1 (List.mem_cons_of_mem _ h),
      (hnames other hother).2⟩

theorem triple_pathOf (v : Value) (home : Text) :
    Triple (fun w => w.home = home) (pathOf v)
      (fun p w => (v.toPath >>= Path.expandHome home) = .ok p ∧ w.home = home) fun _ _ => True := by
  refine Triple.get.bind fun w => Triple.ofExcept ?_ fun _ _ _ _ => trivial
  rintro p hp _ ⟨rfl, rfl⟩
  exact ⟨hp, rfl⟩

theorem answers_pathOf (v : Value) : Answers (pathOf v) Path.WellFormed := by
  refine (Answers.any _).bind fun w _ => Answers.ofExcept fun p hp => ?_
  match v with
  | .text name => exact (Path.wellFormed_ofText name).expandHome hp
  | .null | .bool _ | .int _ | .float _ | .date _ | .dateTime _ | .list _ | .map _ => cases hp

/-- The same value is the same path for each source. -/
theorem answers_mapM_pathOf (v : Value) (sources : List Source) :
    Answers (sources.mapM fun _ => do return some (← pathOf v)) fun targets =>
      ∃ target, targets = List.replicate sources.length (some target) := by
  intro w _
  have hmap := Triple.mapM (P := fun v => v.home = w.home)
    (S := fun t => ∃ p, t = some p ∧ (v.toPath >>= Path.expandHome w.home) = .ok p)
    (f := fun _ => do return some (← pathOf v)) (E := fun _ _ => True)
    fun _ (_ : _ ∈ sources) => (triple_pathOf v w.home).bind fun p =>
      Triple.pure fun _ hp => ⟨⟨p, rfl, hp.1⟩, hp.2⟩
  refine (hmap.mono_answer ?_) w rfl
  rintro targets _ ⟨hlength, hall, -⟩
  cases hr : v.toPath >>= Path.expandHome w.home with
  | error f =>
    -- Then there were no sources.
    refine ⟨⟨[], []⟩, List.eq_replicate_iff.mpr ⟨hlength, fun t ht => ?_⟩⟩
    obtain ⟨p, -, hp⟩ := hall t ht
    exact absurd (hr.symm.trans hp) nofun
  | ok target =>
    refine ⟨target, List.eq_replicate_iff.mpr ⟨hlength, fun t ht => ?_⟩⟩
    obtain ⟨p, rfl, hp⟩ := hall t ht
    rw [Except.ok.inj (hr.symm.trans hp)]

/-- **The targets that settings ask for.** -/
theorem answers_planTargets (s : Settings) :
    Answers (planTargets s) fun targets =>
      ∃ sources, s.sources = .ok sources ∧ Planned s sources.length targets := by
  rw [planTargets]
  split_ifs with houtput hdirectory
  · refine (Answers.ofExcept fun sources h => h).bind fun sources hsources => ?_
    refine (answers_mapM_pathOf _ sources).mono ?_
    rintro _ ⟨target, rfl⟩
    exact ⟨sources, hsources, .shared _ target houtput⟩
  · refine (answers_pathOf _).bind fun directory hwell => ?_
    refine (Answers.ofExcept fun sources h => h).bind fun sources hsources => ?_
    refine (answers_targetsIn directory sources []).mono ?_
    rintro _ ⟨names, hlength, rfl, hnodup, hnames⟩
    exact ⟨sources, hsources, hlength ▸ .spread directory names (by simpa using houtput) hwell
      hnodup fun name hname => (hnames name hname).2⟩
  · refine (Answers.ofExcept fun sources h => h).bind fun sources hsources => Answers.pure ?_
    rw [List.map_const']
    exact ⟨sources, hsources, .printed _ (by simpa using houtput)⟩

/-- The targets that settings ask for are paths as they are written. -/
theorem answers_planTargets_wellFormed (s : Settings) :
    Answers (planTargets s) fun targets => ∀ target ∈ targets, ∀ t ∈ target, t.WellFormed := by
  by_cases houtput : s.has "output" = true
  · rw [planTargets, if_pos houtput]
    refine (Answers.any _).bind fun sources _ => ?_
    have hone : ∀ source ∈ sources, Triple (fun _ => True)
        (do return some (← pathOf (s.get "output")))
        (fun target _ => (∀ t ∈ target, t.WellFormed) ∧ True) fun _ _ => True := by
      refine fun _ _ => Triple.bind (answers_pathOf _) fun p =>
        Triple.pure fun _ hp => ⟨?_, trivial⟩
      rintro _ ⟨⟩
      exact hp
    exact (Triple.mapM hone).mono_answer fun _ _ h => h.2.1
  · refine (answers_planTargets s).mono ?_
    rintro targets ⟨sources, -, hplanned⟩ target htarget t ht
    generalize sources.length = n at hplanned
    cases hplanned with
    | shared n t' output => exact absurd output houtput
    | spread directory names output wellFormed distinct scriptNames =>
      obtain ⟨name, hname, rfl⟩ := List.mem_map.mp htarget
      obtain rfl : directory.child name = t := Option.some.inj ht
      exact wellFormed.childScript (scriptNames name hname)
    | printed n output =>
      rw [List.eq_of_mem_replicate htarget] at ht
      cases ht

end Run

end HiveScript
