import HiveScript.Proofs.Batch.Beside
import HiveScript.Proofs.Batch.Plans
import Mathlib.Data.List.Pairwise

/-!
# Batches that overwrite nothing

The targets of checked settings are told apart, and then a batch neither writes over its own scripts
nor is kept from writing them by what is there. The checks miss two things: blanks as the name of
the one file that several scripts go to, and directories that a path goes up from before they are
made.

* `Planned.apart`: planned targets are beside each other.
* `Unprepared`: why a batch does not come to its first source; `triple_prepareBatch`.
* `keeps_concludeBatch`: after the sources; `triple_batch`.
* `triple_batch_written`, `triple_batch_taken`: all of a batch.
* **`batch_scripts_apart`**: batches of checked settings.
-/

namespace HiveScript

/-! ## Checked settings -/

/-- Only a name of blanks gets several scripts for one file past the checks. -/
theorem Settings.sharesFile_iff {s : Settings} {inputs : List Text} (hinputs : inputs ≠ [])
    (hpresent : (s.get "output").isPresent = true → inputs.length ≤ 1) :
    (s.put "inputs" (.texts inputs)).SharesFile ↔
      (s.put "inputs" (.texts inputs)).SharesBlankFile := by
  have houtput : (s.put "inputs" (.texts inputs)).get "output" = s.get "output" :=
    s.get_put_of_ne (by decide) _
  rw [SharesFile, SharesBlankFile, ← Value.isTrue_and_not_isPresent_iff, has, houtput,
    s.sources_put_inputs hinputs]
  refine and_congr_left fun ⟨sources, hsources, hlength⟩ => ?_
  obtain rfl := Except.ok.inj hsources
  rw [List.length_map] at hlength
  have habsent : (s.get "output").isPresent = false :=
    Bool.eq_false_iff.mpr fun h => Nat.not_lt.mpr (hpresent h) hlength
  exact ⟨fun h => ⟨h, habsent⟩, fun h => h.1⟩

/-! ## Planned targets -/

/-- Planned targets are beside each other. -/
theorem Planned.apart {s : Settings} {n : Nat} {targets : List (Option Path)}
    (h : Planned s n targets) (hn : ¬ (s.has "output" = true ∧ 1 < n)) :
    targets.Pairwise fun a b => ∀ t ∈ a, ∀ t' ∈ b, t.Beside t' := by
  cases h with
  | shared n target output =>
    exact List.pairwise_replicate.mpr (.inl (Nat.not_lt.mp fun h => hn ⟨output, h⟩))
  | spread directory names output wellFormed distinct scriptNames =>
    have hnodup : names.Pairwise (· ≠ ·) := distinct.of_map
    refine List.pairwise_map.mpr (hnodup.imp_of_mem fun {n n'} hmem hmem' hne => ?_)
    rintro _ ⟨⟩ _ ⟨⟩
    exact ⟨directory, n, n', wellFormed, scriptNames n hmem, scriptNames n' hmem', hne, rfl, rfl⟩
  | printed n output => exact List.pairwise_replicate.mpr (.inr nofun)

/-- In a directory each target is a script. -/
theorem Planned.single_or_wellFormed {s : Settings} {n : Nat} {targets : List (Option Path)}
    (h : Planned s n targets) (hn : ¬ (s.has "output" = true ∧ 1 < n)) :
    n ≤ 1 ∨ ∀ target ∈ targets, ∀ t ∈ target, t.WellFormed ∧ t.names ≠ [] := by
  cases h with
  | shared n target output => exact .inl (Nat.not_lt.mp fun h => hn ⟨output, h⟩)
  | spread directory names output wellFormed distinct scriptNames =>
    refine .inr fun target htarget t ht => ?_
    obtain ⟨name, hname, rfl⟩ := List.mem_map.mp htarget
    obtain rfl : directory.child name = t := Option.some.inj ht
    exact ⟨wellFormed.childScript (scriptNames name hname),
      List.append_ne_nil_of_right_ne_nil _ (List.cons_ne_nil name [])⟩
  | printed n output =>
    refine .inr fun target htarget t ht => ?_
    rw [List.eq_of_mem_replicate htarget] at ht
    cases ht

theorem Planned.length_eq {s : Settings} {n : Nat} {targets : List (Option Path)}
    (h : Planned s n targets) : targets.length = n := by
  cases h with
  | shared n target output => exact List.length_replicate
  | spread directory names output wellFormed distinct scriptNames => exact List.length_map _
  | printed n output => exact List.length_replicate

namespace Run

/-! ## Before the sources -/

theorem triple_checkTargets {P : World → Prop} (hP : Recorded P) (s : Settings)
    (targets : List (Option Path)) {w : World} (hw : P w) :
    Triple (fun v => v = w)
      (targets.forM fun target =>
        match target with
        | some target => checkTarget s target
        | none => pure ())
      (fun _ v => (∀ target ∈ targets, ∀ t ∈ target, Checked s w.disk t) ∧ v = w)
      fun e v => (∃ t, some t ∈ targets ∧ Unchecked s w.disk t e) ∧ P v := by
  refine Triple.forM fun target htarget => ?_
  cases target with
  | none => exact Triple.pure fun v hv => ⟨nofun, hv⟩
  | some t =>
    refine (triple_checkTarget hP s t hw).mono (fun _ h => h) (fun _ v h => ⟨?_, h.1⟩)
      fun _ _ h => ⟨⟨t, htarget, h.1⟩, h.2⟩
    rintro _ ⟨⟩
    exact h.2

/-- Why a batch does not come to its first source: its targets cannot be planned, or one of them
does not pass its check. -/
inductive Unprepared (s : Settings) (home : Text) (P : World → Prop) : Stop → Prop
  | unplanned {f : Failure} (h : s.plan home = .error f) : Unprepared s home P (.failure f)
  | unchecked {targets : List (Option Path)} {t : Path} {u : World} {e : Stop}
    (plan : s.plan home = .ok targets) (mem : some t ∈ targets) (h : P u)
    (unchecked : Unchecked s u.disk t e) : Unprepared s home P e

theorem Unprepared.mono {s : Settings} {home : Text} {P P' : World → Prop} {e : Stop}
    (h : Unprepared s home P e) (hP : ∀ w, P w → P' w) : Unprepared s home P' e := by
  cases h with
  | unplanned h => exact .unplanned h
  | unchecked plan mem h hunchecked => exact .unchecked plan mem (hP _ h) hunchecked

theorem Unprepared.ordinary {s : Settings} {home : Text} {P : World → Prop} {e : Stop}
    (h : Unprepared s home P e) : e.Ordinary := by
  cases h with
  | unplanned h => exact .failure _
  | unchecked _ _ _ hunchecked =>
    rcases hunchecked.reason with ⟨rfl, -⟩ | hbarred
    · exact .fatal _
    · exact hbarred.isFailure.ordinary

/-- **The sources with their targets**, once these are planned and checked. -/
theorem triple_prepareBatch {P : World → Prop} (hP : Recorded P) {home : Text}
    (hhome : ∀ w, P w → w.home = home) (s : Settings) :
    Triple P (prepareBatch s)
      (fun pairs w => P w ∧ ∃ sources targets, s.sources = .ok sources ∧
        s.plan home = .ok targets ∧ pairs = sources.zip targets ∧
        ∀ target ∈ targets, ∀ t ∈ target, Checked s w.disk t)
      fun e w => P w ∧ Unprepared s home P e := by
  have hheading : Triple P (heading toolName) (fun _ => P) fun e w => P w ∧ Unprepared s home P e :=
    Triple.modify fun w hw => hP.emit _ w hw
  have hplan : Triple P (planTargets s) (fun targets w => s.plan home = .ok targets ∧ P w)
      fun e w => P w ∧ Unprepared s home P e := by
    refine Triple.mono_stop (computes_planTargets hP hhome s) ?_
    rintro _ w ⟨⟨f, hf, rfl⟩, hw⟩
    exact ⟨hw, .unplanned hf⟩
  refine hheading.bind fun _ => hplan.bind fun targets => ?_
  rintro w ⟨htargets, hw⟩
  refine (((triple_checkTargets hP s targets hw).mono_stop ?_).bind fun _ => ?_) w rfl
  · rintro e v ⟨⟨t, ht, hunchecked⟩, hv⟩
    exact ⟨hv, .unchecked htargets ht hw hunchecked⟩
  refine Triple.bind (Q := fun sources v => s.sources = .ok sources ∧
    (∀ target ∈ targets, ∀ t ∈ target, Checked s w.disk t) ∧ v = w)
    (Triple.ofExcept (fun _ h _ hv => ⟨h, hv⟩) fun f hf _ _ => ?_) fun sources => Triple.pure ?_
  · -- Sources that there are not have no plan.
    exact absurd (s.exists_sources_of_plan htargets) (by rw [hf]; exact fun ⟨_, h⟩ => nomatch h)
  · rintro v ⟨hsources, hchecked, rfl⟩
    exact ⟨hw, sources, targets, hsources, htargets, rfl, hchecked⟩

section

variable {P : World → Prop} (hP : Settled P)

include hP

/-- What is known of the sources and their targets when no file is shared. -/
theorem triple_prepareBatch_apart {s : Settings} (hs : ¬ s.SharesFile) :
    Triple P (prepareBatch s)
      (fun pairs w => P w ∧ Apart pairs ∧
        (pairs.length ≤ 1 ∨ ∀ pair ∈ pairs, ∀ t ∈ pair.2, t.WellFormed ∧ t.names ≠ []) ∧
        ∀ pair ∈ pairs, ∀ t ∈ pair.2, Checked s w.disk t)
      fun _ _ => True := by
  intro w hw
  refine ((triple_prepareBatch (hP.toRecorded.and (recorded_home w.home)) (fun _ h => h.2) s).mono
    (fun _ h => h) ?_ fun _ _ _ => trivial) w ⟨hw, rfl⟩
  rintro pairs v ⟨⟨hv, -⟩, sources, targets, hsources, htargets, rfl, hchecked⟩
  obtain ⟨found, hfound, hplanned⟩ := planned_of_plan htargets
  obtain rfl : found = sources := Except.ok.inj (hfound.symm.trans hsources)
  have hn : ¬ (s.has "output" = true ∧ 1 < found.length) :=
    fun h => hs ⟨h.1, found, hsources, h.2⟩
  have hzip : (found.zip targets).map Prod.snd = targets :=
    List.map_snd_zip hplanned.length_eq.le
  have hmem : ∀ {pair : Source × Option Path}, pair ∈ found.zip targets → pair.2 ∈ targets :=
    fun h => hzip ▸ List.mem_map_of_mem h
  refine ⟨hv, ?_, ?_, fun pair hpair => hchecked pair.2 (hmem hpair)⟩
  · have hapart := hplanned.apart hn
    rw [← hzip, List.pairwise_map] at hapart
    exact hapart
  · refine (hplanned.single_or_wellFormed hn).imp (fun h => ?_) fun h pair hpair => h _ (hmem hpair)
    rwa [List.length_zip, hplanned.length_eq, Nat.min_self]

/-! ## After the sources -/

theorem keeps_concludeBatch {S : Stop → Prop} (hS : ∀ f, S (.failure f)) (s : Settings)
    (os : List Outcome) :
    Keeps P S (concludeBatch s os) := by
  have hlog : ∀ level template (status : Nat), Keeps P S (do
      log level batchRecordSource template []
      return status) := fun _ _ _ => (keeps_log hP.toRecorded _ _ _ _).bind fun _ => Keeps.pure
  have hreport : ∀ {x : Run Nat}, Keeps P S x →
      Keeps P S (do
        print ((← ofExcept (Json.report (Outcome.report os))) ++ [Point.lineFeed])
        x) := fun hx =>
    (Keeps.ofExcept hS).bind fun _ =>
      (keeps_print hP hS _).bind fun _ => hx
  unfold concludeBatch
  dsimp only
  split_ifs
  · exact hreport (hlog _ _ _)
  · exact hreport (hlog _ _ _)
  · exact hlog _ _ _
  · exact hlog _ _ _

end

/-! ## Batches -/

/-- If the path of one script goes up from where no directory is, those of all scripts do. -/
theorem Apart.climbs {pairs : List (Source × Option Path)} (h : Apart pairs) {d : Disk}
    {a b : Source × Option Path} (ha : a ∈ pairs) (hb : b ∈ pairs) {t t' : Path} (ht : t ∈ a.2)
    (ht' : t' ∈ b.2) (hc : d.Climbs t) : d.Climbs t' := by
  by_cases hab : a = b
  · obtain rfl := hab
    rwa [← Option.mem_unique ht ht']
  · exact ((h.forall ha hb hab) t ht t' ht').climbs_iff.mp hc

/-- Targets that were checked are not found taken once there are scripts. -/
theorem triple_convertAll_taken {s : Settings} (hforce : s.has "force" = false) {d : Disk}
    {w : World} (htree : w.disk.IsTree) (hgrows : d.Grows w.disk)
    {pairs : List (Source × Option Path)}
    (hapart : Apart pairs)
    (hpairs : pairs.length ≤ 1 ∨ ∀ pair ∈ pairs, ∀ t ∈ pair.2, t.WellFormed ∧ t.names ≠ [])
    (hchecked : ∀ pair ∈ pairs, ∀ t ∈ pair.2, Checked s w.disk t) :
    Triple (fun v => v = w) (convertAll s pairs)
      (fun r _ => ∀ e, r.2 = .error e → e.IsTaken → ∀ o ∈ r.1, ∀ t ∈ o.target, d.Climbs t)
      fun _ _ => False := by
  rcases hpairs with hlength | hpairs
  · refine (triple_convertAll_length s pairs).mono (fun _ _ => trivial) ?_ fun _ _ h => h
    intro r v h e he _ o ho
    exact absurd (h e he) (Nat.not_lt.mpr (hlength.trans (List.length_pos_of_mem ho)))
  by_cases hclimbs : ∃ pair ∈ pairs, ∃ t ∈ pair.2, d.Climbs t
  · obtain ⟨pair, hpair, t, ht, hclimbs⟩ := hclimbs
    refine (triple_convertAll_written s hapart).mono (fun _ _ => trivial) ?_ fun _ _ h => h
    intro r v h e he _ o ho t' ht'
    obtain ⟨⟨pair', hpair', hmem⟩, -⟩ := h o ho t' ht'
    exact hapart.climbs hpair hpair' ht hmem hclimbs
  · have hnot : ∀ pair ∈ pairs, ∀ t ∈ pair.2, ¬ w.disk.Climbs t := fun pair hpair t ht hc =>
      hclimbs ⟨pair, hpair, t, ht, hgrows.climbs hc⟩
    refine (triple_convertAll_free htree s hapart fun pair hpair t ht =>
      ⟨(hpairs pair hpair t ht).1, hnot pair hpair t ht⟩).mono ?_ ?_ fun _ _ h => h
    · rintro _ rfl pair hpair t ht hfit
      obtain ⟨hwell, hne⟩ := hpairs pair hpair t ht
      exact ⟨.refl _, htree.find?_placeOf_eq_none hwell hne (hnot pair hpair t ht)
        (hchecked pair hpair t ht hforce hfit), fun h => absurd rfl h⟩
    · exact fun r v h e he htaken => absurd htaken (h e he)

/-- A batch prepares, converts and concludes, and always answers. -/
theorem triple_batch {s : Settings} {P : World → Prop}
    {Q : List (Source × Option Path) → World → Prop}
    {R : List Outcome × Except Stop Unit → World → Prop} {B : BatchEnding → World → Prop}
    (hprepare : Triple P (prepareBatch s) Q fun e w => B ⟨[], .error e⟩ w)
    (hconvert : ∀ pairs, Triple (Q pairs) (convertAll s pairs) R fun _ _ => False)
    (hstop : ∀ os e w, R (os, .error e) w → B ⟨os, .error e⟩ w)
    (hconclude : ∀ os, Triple (R (os, .ok ())) (concludeBatch s os)
      (fun status w => B ⟨os, .ok status⟩ w) fun e w => B ⟨os, .error e⟩ w) :
    Triple P (batch s) B fun _ _ => False := by
  rw [batch]
  refine (triple_attempt hprepare).bind fun r => ?_
  cases r with
  | error e => exact Triple.pure fun _ h => h
  | ok pairs =>
    refine (hconvert pairs).bind fun r => ?_
    obtain ⟨os, _ | _⟩ := r
    · exact Triple.pure fun w h => hstop _ _ w h
    · refine (triple_attempt (hconclude os)).bind fun r => Triple.pure fun w h => ?_
      cases r with
      | error e => exact h
      | ok status => exact h

theorem triple_batch_answers (s : Settings) :
    Triple (fun _ => True) (batch s) (fun _ _ => True) fun _ _ => False :=
  triple_batch (Q := fun _ _ => True) (R := fun _ _ => True) (Answers.any _)
    (fun _ => keeps_convertAll settled_true s fun _ _ t _ => indifferent_true t) (fun _ _ _ h => h)
    fun _ => Answers.any _

/-- **The scripts that a batch has written stand when it ends.** -/
theorem triple_batch_written {s : Settings} (hs : ¬ s.SharesFile) :
    Triple (fun _ => True) (batch s)
      (fun ending w => ∀ o ∈ ending.outcomes, ∀ t ∈ o.target,
        Written s t (o.result.script.getD []) w)
      fun _ _ => False := by
  refine triple_batch (Q := fun pairs _ => Apart pairs) (R := fun r w => ∀ o ∈ r.1, ∀ t ∈ o.target,
    Written s t (o.result.script.getD []) w) ?_ (fun pairs => ?_) (fun _ _ _ h => h) fun os => ?_
  · exact (triple_prepareBatch_apart settled_true hs).mono (fun _ h => h) (fun _ _ h => h.2.1)
      fun _ _ _ => nofun
  · intro w hpairs
    exact ((triple_convertAll_written s hpairs).mono_answer
      fun _ _ h o ho t ht => (h o ho t ht).2) w trivial
  · have hsettled : Settled fun w => ∀ o ∈ os, ∀ t ∈ o.target,
        Written s t (o.result.script.getD []) w :=
      Settled.forall fun _ => Settled.forall fun _ => Settled.forall fun t =>
        Settled.forall fun _ => settled_written s t _
    exact Triple.mono_stop (keeps_concludeBatch hsettled Stop.Ordinary.failure s os)
      fun _ _ h => h.2

/-- **A batch that has written scripts is not kept from writing others by what is there**, unless
their paths go up from where no directory is. -/
theorem triple_batch_taken {s : Settings} (hs : ¬ s.SharesFile) (hforce : s.has "force" = false)
    {d : Disk} (hd : d.IsTree) :
    Triple (fun w => w.disk = d) (batch s)
      (fun ending _ => ∀ e, ending.status = .error e → e.IsTaken →
        ∀ o ∈ ending.outcomes, ∀ t ∈ o.target, d.Climbs t)
      fun _ _ => False := by
  refine triple_batch (Q := fun pairs w => (w.disk.IsTree ∧ d.Grows w.disk) ∧ Apart pairs ∧
    (pairs.length ≤ 1 ∨ ∀ pair ∈ pairs, ∀ t ∈ pair.2, t.WellFormed ∧ t.names ≠ []) ∧
      ∀ pair ∈ pairs, ∀ t ∈ pair.2, Checked s w.disk t)
    (R := fun r _ => ∀ e, r.2 = .error e → e.IsTaken → ∀ o ∈ r.1, ∀ t ∈ o.target, d.Climbs t)
    ?_ (fun pairs => ?_) ?_ fun os => ?_
  · refine (triple_prepareBatch_apart (settled_isTree d) hs).mono ?_ (fun _ _ h => h)
      fun _ _ _ => nofun
    rintro w rfl
    exact ⟨hd, .refl _⟩
  · rintro w ⟨⟨htree, hgrows⟩, hapart, hpairs, hchecked⟩
    exact triple_convertAll_taken hforce htree hgrows hapart hpairs hchecked w rfl
  · rintro os e w h _ ⟨⟩
    exact h e rfl
  · refine Triple.mono (keeps_concludeBatch (S := fun e => ¬ e.IsTaken) settled_true
      Stop.not_isTaken_failure s os) (fun _ _ => trivial) (fun _ _ _ => nofun) ?_
    rintro e w ⟨he, -⟩ _ ⟨⟩ htaken
    exact absurd htaken he

/-! ## Batches of checked settings -/

/-- **Checked settings get targets that are told apart, and scripts that stay**, unless several
scripts go to one file whose name is nothing but blanks. A batch that may not replace files stops
before it writes any, unless paths go up from where no directory is. -/
theorem batch_scripts_apart {s checked : Settings} {u v : World}
    (hs : (checkSettings s).after u = (.ok checked, v)) (w : World) :
    (∀ targets w', (planTargets checked).after w = (.ok targets, w') →
      (targets.reduceOption.Nodup ↔ ¬ checked.SharesBlankFile)) ∧
    ∃ ending w', (batch checked).after w = (.ok ending, w') ∧
      (checked.has "force" = false → w.disk.IsTree →
        ∀ e, ending.status = .error e → e.IsTaken → ∀ o ∈ ending.outcomes, ∀ t ∈ o.target,
          checked.SharesBlankFile ∨ w.disk.Climbs t) ∧
      (¬ checked.SharesBlankFile → ∀ o ∈ ending.outcomes, ∀ t ∈ o.target,
        ∃ header, checked.headerText = .ok header ∧
          w'.disk.read t.text = .ok (Script.encode (checked.has "bom")
            (Script.layout header checked.newline (o.result.script.getD [])))) := by
  obtain ⟨inputs, hinputs, rfl, hlength⟩ := (answers_checkSettings s).of_after hs
  have hshares := Settings.sharesFile_iff hinputs hlength
  set checked := s.put "inputs" (.texts inputs)
  refine ⟨fun targets w' htargets => ?_, ?_⟩
  · obtain ⟨sources, hsources, hplanned⟩ := (answers_planTargets checked).of_after htargets
    rw [hplanned.nodup_iff, ← hshares, not_iff_not, Settings.SharesFile]
    exact and_congr_right fun _ => ⟨fun h => ⟨sources, hsources, h⟩, fun ⟨found, hfound, h⟩ =>
      Except.ok.inj (hfound.symm.trans hsources) ▸ h⟩
  obtain ⟨ending, w', hending, -⟩ := (triple_batch_answers checked).exists_answer (w := w) trivial
  refine ⟨ending, w', hending, fun hforce htree e he htaken o ho t ht => ?_,
    fun hblank o ho t ht => ?_⟩
  · by_cases hshared : checked.SharesFile
    · exact .inl (hshares.mp hshared)
    · exact .inr ((triple_batch_taken hshared hforce htree).ok rfl hending e he htaken o ho t ht)
  · obtain ⟨header, hheader, hstands⟩ :=
      (triple_batch_written (mt hshares.mp hblank)).ok trivial hending o ho t ht
    exact ⟨header, hheader, hstands.read⟩

/-- Two exports, and a script with the name that one of them gets. -/
def tray : World where
  disk := {
    here := []
    nodes := [
      (["a.reg"], .file (Utf8.encode "[HKEY_USERS\\A]\nx=1")),
      (["b.reg"], .file (Utf8.encode "[HKEY_USERS\\B]\ny=2")),
      (["y"], .directory),
      (["y", "b.ps1"], .file (Utf8.encode "old"))] }
  home := "/"
  moment := ⟨0⟩
  process := 1
  input := .octets []
  output := ⟨.strict, false, []⟩
  messages := ⟨.strict, false, []⟩
  log := Log.initial

/-- Both exports, for an output of some kind. -/
def both (kind name : Text) : Settings :=
  [("inputs", .texts ["a.reg", "b.reg"]), (kind, .text name)]

/-- The targets of the scripts that a batch has written, and the message of its early end. -/
def told (s : Settings) : Option (List (Option Path) × Except Text Nat) :=
  ((batch s).after tray).1.toOption.map fun ending =>
    (ending.outcomes.map (·.target), ending.status.mapError stopText)

theorem batch_scripts_apart_directory :
    ((both "output_dir" "out").has "force" = false ∧ tray.disk.IsTree) ∧
      (planTargets (both "output_dir" "out")).after tray =
        (.ok [some (.ofText "out/a.ps1"), some (.ofText "out/b.ps1")], tray) ∧
      ∃ ending w', (batch (both "output_dir" "out")).after tray = (.ok ending, w') ∧
        ending.outcomes.map (·.target) =
          [some (.ofText "out/a.ps1"), some (.ofText "out/b.ps1")] ∧
        ∀ o ∈ ending.outcomes, ∀ t ∈ o.target, ∃ header,
          (both "output_dir" "out").headerText = .ok header ∧
            w'.disk.read t.text = .ok (Script.encode ((both "output_dir" "out").has "bom")
              (Script.layout header (both "output_dir" "out").newline
                (o.result.script.getD []))) := by
  have hs : (checkSettings (both "output_dir" "out")).after tray =
      (.ok (both "output_dir" "out"), tray) := rfl
  have hplan : (planTargets (both "output_dir" "out")).after tray =
      (.ok [some (.ofText "out/a.ps1"), some (.ofText "out/b.ps1")], tray) := rfl
  have htold : told (both "output_dir" "out") =
      some ([some (.ofText "out/a.ps1"), some (.ofText "out/b.ps1")], .ok 0) := by decide +kernel
  obtain ⟨hnodup, ending, w', hending, -, hread⟩ := batch_scripts_apart hs tray
  have hblank := (hnodup _ _ hplan).mp (by decide)
  rw [told, hending] at htold
  have htree : tray.disk.IsTree := Disk.isTree_of_nodes (by decide)
  have htargets := congrArg Prod.fst (Option.some.inj htold)
  exact ⟨⟨by decide, htree⟩, hplan, ending, w', hending, htargets, hread hblank⟩

/-- A blank is one file for both scripts, so that the second one finds the first one there or takes
its place. A directory that is made on the way up shows what was there all along. -/
theorem batch_scripts_not_apart :
    ((checkSettings (both "output" " ")).after tray = (.ok (both "output" " "), tray) ∧
      (planTargets (both "output" " ")).after tray =
        (.ok [some (.ofText " "), some (.ofText " ")], tray) ∧
      told (both "output" " ") = some ([some (.ofText " ")],
        .error "Output exists (use --force to overwrite):") ∧
      told ((both "output" " ").put "force" (.bool true)) =
        some ([some (.ofText " "), some (.ofText " ")], .ok 0)) ∧
    (checkSettings (both "output_dir" "x/../y")).after tray =
        (.ok (both "output_dir" "x/../y"), tray) ∧
      told (both "output_dir" "x/../y") = some ([some (.ofText "x/../y/a.ps1")],
        .error "Output exists (use --force to overwrite): x/../y/b.ps1") := by
  refine ⟨⟨rfl, rfl, ?_, ?_⟩, rfl, ?_⟩
  · decide +kernel
  · decide +kernel
  · decide +kernel

end Run

end HiveScript
