import HiveScript.Proofs.Batch.Histories

/-!
# Batches that spare what is there

A batch that may not replace files leaves alone what is there, however it ends, and does nothing at
all if something is at one of its targets. It finds out by looking at the targets before their
directories are made, so that it misses what a path leads to only by way of such a directory.

* `World.Shows`: something is at a path.
* **`batch_spares`**: what batches leave alone.
* `batch_not_spares`: a script that is written over another file.
-/

namespace HiveScript

/-- Something is at a path. -/
def World.Shows (w : World) (t : Path) : Prop :=
  checkPath t.text = .ok () ∧ ∃ n, w.disk.stat t.text = .ok n

namespace Run

variable {s : Settings} {w v : World} {ending : BatchEnding} {targets : List (Option Path)}
  {t : Path}

/-- A target that is checked before the first source is free, unless its path goes up from where no
directory is. -/
theorem Checked.find?_placeOf {u : World} (h : Checked s u.disk t) (hu : w.Idles u)
    (hforce : s.has "force" = false) (hsound : w.disk.IsSound) (hwell : t.WellFormed)
    (hcheck : checkPath t.text = .ok ()) (hc : ¬ w.disk.Climbs t) :
    w.disk.find? (w.disk.placeOf t) = none := by
  have halike := hu.follows.alike
  refine hsound.find?_placeOf_of_lacks hwell hc ?_
  exact halike.lacks_iff.mp (h hforce hcheck)

/-- Why a target does not pass its check, in the world at the start. -/
theorem Unchecked.reason_start {u : World} {e : Stop} (h : Unchecked s u.disk t e)
    (hu : w.Idles u) : e = .taken t ∧ w.Shows t ∨ Barred w.disk t.text e := by
  have halike := hu.follows.alike
  refine h.reason.imp ?_ ?_
  · rintro ⟨rfl, hthere⟩
    exact ⟨rfl, h.check, halike.exists_stat_eq_ok_iff.mp hthere⟩
  · rintro ⟨problem, he, hstat, hlacks⟩
    exact ⟨problem, he, halike.stat_eq_error_iff.mp hstat, mt halike.lacks_iff.mpr hlacks⟩

/-- If something is at a target, then nothing is done. -/
theorem History.unprepared_of_shows (h : History s w ending v) (hforce : s.has "force" = false)
    (hplan : s.plan w.home = .ok targets) (ht : some t ∈ targets) (hshows : w.Shows t) :
    ending.outcomes = [] ∧ w.Idles v ∧ ∃ e, ending.status = .error e ∧ ∃ t', some t' ∈ targets ∧
      (e = .taken t' ∧ w.Shows t' ∨ Barred w.disk t'.text e) := by
  obtain ⟨hcheck, n, hn⟩ := hshows
  -- A target that passes its check is not there.
  have hfree : ∀ {found : List (Option Path)} {u : World}, s.plan w.home = .ok found → w.Idles u →
      ¬ ∀ target ∈ found, ∀ t ∈ target, Checked s u.disk t := by
    intro found u hfound hu hchecked
    obtain rfl : targets = found := Except.ok.inj (hplan.symm.trans hfound)
    have hlacks := hu.follows.alike.lacks_iff.mp (hchecked _ ht t rfl hforce hcheck)
    rw [Disk.Lacks, hn] at hlacks
    rcases hlacks with hlacks | hlacks <;> cases hlacks
  cases h with
  | stopped _ plan idles checked _ => exact absurd checked (hfree plan idles)
  | concluded _ plan idles checked _ _ => exact absurd checked (hfree plan idles)
  | unprepared idles hunprepared =>
    refine ⟨rfl, idles, _, rfl, ?_⟩
    cases hunprepared with
    | unplanned hf => cases hplan.symm.trans hf
    | @unchecked found t' u e hfound ht' hu hunchecked =>
      obtain rfl : targets = found := Except.ok.inj (hplan.symm.trans hfound)
      exact ⟨t', ht', hunchecked.reason_start hu⟩

/-- No script is written to where something is, unless its path goes up from where no directory
is. -/
theorem History.placeOf_ne (h : History s w ending v) (hforce : s.has "force" = false)
    (hsound : w.disk.IsSound) {q : Place} (hq : w.disk.find? q ≠ none)
    (hclimbs : ∀ targets t, s.plan w.home = .ok targets → some t ∈ targets → w.disk.Climbs t →
      w.disk.placeOf t ≠ q) {o : Outcome} (ho : o ∈ ending.outcomes) (ht : t ∈ o.target) :
    w.disk.placeOf t ≠ q := by
  intro hplace
  obtain ⟨hcheck, targets, u, hplan, hmem, hu, hchecked⟩ := h.target_mem ho ht
  by_cases hc : w.disk.Climbs t
  · exact hclimbs targets t hplan hmem hc hplace
  · have hwell := wellFormed_of_plan hplan _ hmem t rfl
    exact hq (hplace ▸ hchecked.find?_placeOf hu hforce hsound hwell hcheck hc)

/-- What is at a place stays there, unless a target that spells it goes up from where no directory
is. -/
theorem History.find?_eq (h : History s w ending v) (hforce : s.has "force" = false)
    (hsound : w.disk.IsSound) {q : Place} {n : Node} (hq : w.disk.find? q = some n)
    (hquiet : w.Quiet q)
    (hclimbs : ∀ targets t, s.plan w.home = .ok targets → some t ∈ targets → w.disk.Climbs t →
      w.disk.placeOf t ≠ q) : v.disk.find? q = some n := by
  obtain ⟨tried, hfollows⟩ := h.exists_follows
  have hne : ∀ o ∈ ending.outcomes, ∀ t ∈ o.target, w.disk.placeOf t ≠ q :=
    fun o ho t ht => h.placeOf_ne hforce hsound (by rw [hq]; exact nofun) hclimbs ho ht
  have hfind := hfollows.find? q hquiet
  rw [h.overlay_eq (List.Subset.refl _) hne, hq] at hfind
  exact hfind.resolve_right fun h => absurd h.1 nofun

/-- **A batch that may not replace files spares what is there.**

If something is at a target that is planned, then there are no outcomes, and only records are made;
the batch ends with the fatal fault of a target that is there, or because another target cannot be
looked at. In any case what is at a path is still there when the batch ends, unless a sink adds to
it or a planned target leads there by going up from where no directory is. -/
theorem batch_spares (hforce : s.has "force" = false) (hsound : w.disk.IsSound) :
    ∃ ending v, (batch s).after w = (.ok ending, v) ∧
      (∀ targets t, s.plan w.home = .ok targets → some t ∈ targets → w.Shows t →
        ending.outcomes = [] ∧ v.output = w.output ∧
        (∀ q, w.Quiet q → v.disk.find? q = w.disk.find? q) ∧
        ∃ e, ending.status = .error e ∧ ∃ t', some t' ∈ targets ∧
          (e = .taken t' ∧ w.Shows t' ∨ Barred w.disk t'.text e)) ∧
      ∀ path q n, w.disk.locate path = .ok q → w.disk.find? q = some n → w.Quiet q →
        (∀ targets t, s.plan w.home = .ok targets → some t ∈ targets → w.disk.Climbs t →
          w.disk.placeOf t ≠ q) →
        v.disk.stat path = .ok n := by
  obtain ⟨ending, v, hending, h⟩ := (triple_batch_history s w).exists_answer rfl
  refine ⟨ending, v, hending, fun targets t hplan ht hshows => ?_,
    fun path q n hl hq hquiet hc => ?_⟩
  · obtain ⟨houtcomes, hidles, hstatus⟩ := h.unprepared_of_shows hforce hplan ht hshows
    exact ⟨houtcomes, hidles.output, fun q hq => hidles.follows.find?_eq hq, hstatus⟩
  · obtain ⟨tried, hfollows⟩ := h.exists_follows
    exact Disk.stat_of_locate_eq_ok (hfollows.grows.locate hl)
      (h.find?_eq hforce hsound hq hquiet hc)

theorem isSound_tray : tray.disk.IsSound := ⟨Disk.isTree_of_nodes (by decide), rfl⟩

theorem batch_spares_directory :
    ((both "output_dir" "y").has "force" = false ∧ tray.disk.IsSound) ∧
      (both "output_dir" "y").plan tray.home =
        .ok [some (.ofText "y/a.ps1"), some (.ofText "y/b.ps1")] ∧
      tray.Shows (.ofText "y/b.ps1") ∧
      ∃ ending v, (batch (both "output_dir" "y")).after tray = (.ok ending, v) ∧
        ending.outcomes = [] ∧ v.output = tray.output ∧
        v.disk.stat "y/b.ps1" = .ok (.file (Utf8.encode "old")) := by
  have hforce : (both "output_dir" "y").has "force" = false := by decide
  have hplan : (both "output_dir" "y").plan tray.home =
      .ok [some (.ofText "y/a.ps1"), some (.ofText "y/b.ps1")] := rfl
  have hshows : tray.Shows (.ofText "y/b.ps1") := ⟨rfl, _, rfl⟩
  obtain ⟨ending, v, hending, hnothing, hkept⟩ := batch_spares hforce isSound_tray
  obtain ⟨houtcomes, houtput, -⟩ := hnothing _ _ hplan (by simp) hshows
  refine ⟨⟨hforce, isSound_tray⟩, hplan, hshows, ending, v, hending, houtcomes, houtput, ?_⟩
  refine hkept "y/b.ps1" ["y", "b.ps1"] _ rfl rfl (fun _ hs => absurd hs List.not_mem_nil) ?_
  intro targets t htargets ht hc
  obtain rfl := Except.ok.inj (hplan.symm.trans htargets)
  have hdots : ∀ target ∈ [some (Path.ofText "y/a.ps1"), some (.ofText "y/b.ps1")], ∀ t ∈ target,
      [dot, dot] ∉ t.names := by decide
  exact absurd hc (Disk.not_climbs (hdots _ ht t rfl))

/-- The second of the exports, for a directory. -/
def second (directory : Text) : Settings :=
  [("inputs", .texts ["b.reg"]), ("output_dir", .text directory)]

/-- A path leads nowhere before its directories are made, and then to a file that the script is
written over. -/
theorem batch_not_spares :
    ((second "x/../y").has "force" = false ∧ tray.disk.IsSound) ∧
      (second "x/../y").plan tray.home = .ok [some (.ofText "x/../y/b.ps1")] ∧
      tray.disk.stat "x/../y/b.ps1" = .error .noEntry ∧
      tray.disk.stat "y/b.ps1" = .ok (.file (Utf8.encode "old")) ∧
      told (second "x/../y") = some ([some (.ofText "x/../y/b.ps1")], .ok 0) ∧
      ((batch (second "x/../y")).after tray).2.disk.stat "y/b.ps1" ≠
        .ok (.file (Utf8.encode "old")) := by
  refine ⟨⟨by decide, isSound_tray⟩, rfl, rfl, rfl, ?_, ?_⟩
  · decide +kernel
  · decide +kernel

end Run

end HiveScript
