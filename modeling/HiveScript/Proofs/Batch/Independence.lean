import HiveScript.Proofs.Batch.Sparing

/-!
# Inputs of a batch

A batch converts what its inputs were when it started, unless it has written a script over one of
them before its turn. Without leave to replace files this does not happen to a path that is looked
at in time.

* `Run.History.tryConvert_eq`: the text that an outcome comes from.
* **`batch_inputs`**: what each input is converted from.
* `batch_inputs_overwritten`: an input that is a script by the time of its turn.
-/

namespace HiveScript.Run

variable {s : Settings} {w v : World} {ending : BatchEnding} {pre post : List Outcome} {o : Outcome}
  {path : Text} {q : Place} {content content' : Bytes}

/-- An outcome comes from what its file is under the scripts before it. -/
theorem History.tryConvert_eq (h : History s w ending v) (ho : ending.outcomes = pre ++ o :: post)
    (hsource : o.source = .file path) (hl : w.disk.locate (Path.ofText path).text = .ok q)
    (hquiet : w.Quiet q)
    (hcontent : w.disk.overlay q (w.disk.find? q) (Outcome.allFiles s pre) =
      some (.file content')) :
    tryConvert (decodeExport content') = .ok o.result := by
  obtain ⟨tried, u, u', target, hfollows, hconverted⟩ := h.exists_converted ho
  rw [hsource] at hconverted
  have hresult := hconverted.result (hfollows.quietFor hl hquiet)
  obtain ⟨text, htext, hresult⟩ := Option.bind_eq_some_iff.mp hresult
  obtain ⟨hcheck, -⟩ := World.text?_file_eq_some_iff.mp htext
  obtain rfl := Option.some.inj
    (htext.symm.trans (hfollows.text?_file hcheck hl hquiet hcontent))
  cases hconvert : tryConvert (decodeExport content') with
  | ok result =>
    rw [hconvert] at hresult
    exact congrArg Except.ok (Option.some.inj hresult)
  | error f =>
    rw [hconvert] at hresult
    cases hresult

/-- **Each input is converted from what it was when the batch started**, if no script before it was
written to where it is; else it is converted from the last such script. Without leave to replace
files the former holds, unless a planned target leads to the input by going up from where no
directory is. -/
theorem batch_inputs (s : Settings) (w : World) :
    ∃ ending v, (batch s).after w = (.ok ending, v) ∧
      ∀ pre o post, ending.outcomes = pre ++ o :: post → ∀ path q content, o.source = .file path →
        w.disk.locate (Path.ofText path).text = .ok q → w.disk.find? q = some (.file content) →
        w.Quiet q →
        ((∀ o' ∈ pre, ∀ t ∈ o'.target, w.disk.placeOf t ≠ q) →
          tryConvert (decodeExport content) = .ok o.result) ∧
        (∀ earlier o' later t, pre = earlier ++ o' :: later → o'.target = some t →
          w.disk.placeOf t = q → (∀ o'' ∈ later, ∀ t ∈ o''.target, w.disk.placeOf t ≠ q) →
          tryConvert (decodeExport (s.scriptOctets (o'.result.script.getD []))) = .ok o.result) ∧
        (s.has "force" = false → w.disk.IsSound →
          (∀ targets t, s.plan w.home = .ok targets → some t ∈ targets → w.disk.Climbs t →
            w.disk.placeOf t ≠ q) →
          tryConvert (decodeExport content) = .ok o.result) := by
  obtain ⟨ending, v, hending, h⟩ := (triple_batch_history s w).exists_answer rfl
  refine ⟨ending, v, hending, fun pre o post ho path q content hsource hl hq hquiet => ?_⟩
  have hbefore : pre ⊆ ending.outcomes := ho ▸ List.subset_append_left pre (o :: post)
  have hstart : (∀ o' ∈ pre, ∀ t ∈ o'.target, w.disk.placeOf t ≠ q) →
      tryConvert (decodeExport content) = .ok o.result := fun hne =>
    h.tryConvert_eq ho hsource hl hquiet ((h.overlay_eq hbefore hne).trans hq)
  refine ⟨hstart, ?_, fun hforce hsound hclimbs => hstart fun o' ho' t ht => ?_⟩
  · rintro earlier o' later t rfl ht hplace hlater
    have ho' : o' ∈ ending.outcomes := hbefore (List.mem_append_right _ List.mem_cons_self)
    have hrest : later ⊆ ending.outcomes := fun o'' h =>
      hbefore (List.mem_append_right _ (List.mem_cons_of_mem _ h))
    have hfiles : Outcome.allFiles s (earlier ++ o' :: later) = Outcome.allFiles s earlier ++
        [(t, s.scriptOctets (o'.result.script.getD []))] ++ Outcome.allFiles s later := by
      simp [Outcome.allFiles, Outcome.files, Settings.filesOf, ht]
    refine h.tryConvert_eq ho hsource hl hquiet ?_
    rw [hfiles, Disk.overlay_append, h.overlay_eq hrest hlater, Disk.overlay_append_singleton,
      h.ofText_text ho' ht, if_pos hplace]
  · exact h.placeOf_ne hforce hsound (by rw [hq]; exact Option.some_ne_none _) hclimbs
      (hbefore ho') ht

theorem batch_inputs_directory :
    ∃ ending v, (batch (both "output_dir" "out")).after tray = (.ok ending, v) ∧
      ∃ first last, ending.outcomes = [first, last] ∧ last.source = .file "b.reg" ∧
        (∀ t ∈ first.target, tray.disk.placeOf t ≠ [Text.ofString "b.reg"]) ∧
        tryConvert (decodeExport (Utf8.encode "[HKEY_USERS\\B]\ny=2")) = .ok last.result := by
  obtain ⟨ending, v, hending, hinputs⟩ := batch_inputs (both "output_dir" "out") tray
  have hnames : ((batch (both "output_dir" "out")).after tray).1.toOption.map (fun ending =>
      ending.outcomes.map fun o => (o.source.path?, o.target)) =
      some [(some (Text.ofString "a.reg"), some (Path.ofText "out/a.ps1")),
        (some (Text.ofString "b.reg"), some (Path.ofText "out/b.ps1"))] := by
    decide +kernel
  rw [hending] at hnames
  obtain ⟨first, os, hos, hfirst, hnames⟩ := List.map_eq_cons_iff.mp (Option.some.inj hnames)
  obtain ⟨last, os, rfl, hlast, hnames⟩ := List.map_eq_cons_iff.mp hnames
  obtain rfl := List.map_eq_nil_iff.mp hnames
  have hsource : last.source = .file "b.reg" :=
    Source.path?_eq_some_iff.mp (congrArg Prod.fst hlast)
  have htarget : first.target = some (.ofText "out/a.ps1") := congrArg Prod.snd hfirst
  have helsewhere : ∀ t ∈ first.target, tray.disk.placeOf t ≠ [Text.ofString "b.reg"] := by
    rw [htarget]
    decide
  obtain ⟨hstart, -⟩ := hinputs [first] last [] hos "b.reg" ["b.reg"] _ hsource rfl rfl
    fun _ hs => absurd hs List.not_mem_nil
  refine ⟨ending, v, hending, first, last, hos, hsource, helsewhere, hstart ?_⟩
  simpa using helsewhere

/-- A script that is the last input. -/
def overlapping : World :=
  { tray with disk := {
      here := []
      nodes := [
        (["b.reg"], .file (Utf8.encode "[HKEY_USERS\\B]\ny=2")),
        (["b.ps1"], .file (Utf8.encode "[HKEY_USERS\\C]\nz=3"))] } }

/-- Both of these inputs, with leave to replace files beside them. -/
def replacing : Settings :=
  [("inputs", .texts ["b.reg", "b.ps1"]), ("output_dir", .text "."), ("force", .bool true)]

/-- An input is converted from the script that was written over it. -/
theorem batch_inputs_overwritten :
    (checkSettings replacing).after overlapping = (.ok replacing, overlapping) ∧
      (overlapping.result? (.file "b.ps1")).map Result.isOk = some true ∧
      ((batch replacing).after overlapping).1.toOption.map (fun ending =>
        ending.outcomes.map fun o => (o.target, o.result.isOk)) =
          some [(some (.ofText "b.ps1"), true), (none, false)] := by
  refine ⟨rfl, ?_, ?_⟩
  · decide +kernel
  · decide +kernel

end HiveScript.Run
