import HiveScript.Proofs.Batch.Targets
import HiveScript.Proofs.Run.Keeping

/-!
# Plans

The plan of a batch depends on its settings and on the home directory only; all else that planning
does is to make records.

* `Settings.plan`: the targets of all sources, or why there are none.
* `Run.Computes`: runs that come to the result of a computation.
* **`computes_planTargets`**: planning comes to the plan; `planTargets_eq_ok_iff`.
-/

namespace HiveScript

/-- The targets of scripts in a directory, beside names that are taken. -/
def Targets.spread (directory : Path) :
    List Text → List Source → Except Failure (List (Option Path))
  | _, [] => .ok []
  | taken, source :: sources => do
    let stem ← source.stem
    let name := candidate stem (choose taken stem)
    return some (directory.child name) :: (← spread directory (name.lowercase :: taken) sources)

namespace Settings

/-- The path that a value is, when the home directory is known. -/
def pathIn (home : Text) (v : Value) : Except Failure Path := v.toPath >>= Path.expandHome home

/-- The targets that settings ask for, when the home directory is known. -/
def plan (s : Settings) (home : Text) : Except Failure (List (Option Path)) :=
  if s.has "output" then do
    let sources ← s.sources
    sources.mapM fun _ => do return some (← pathIn home (s.get "output"))
  else if s.has "output_dir" then do
    let directory ← pathIn home (s.get "output_dir")
    Targets.spread directory [] (← s.sources)
  else do return (← s.sources).map fun _ => none

/-- Only sources that there are have a plan. -/
theorem exists_sources_of_plan (s : Settings) {home : Text} {targets : List (Option Path)}
    (h : s.plan home = .ok targets) : ∃ sources, s.sources = .ok sources := by
  cases hsources : s.sources with
  | ok sources => exact ⟨sources, rfl⟩
  | error f =>
    rw [plan, hsources] at h
    split_ifs at h
    · cases h
    · cases hpath : pathIn home (s.get "output_dir") with
      | error f =>
        rw [hpath] at h
        cases h
      | ok directory =>
        rw [hpath] at h
        cases h
    · cases h

end Settings

namespace Run

/-! ## Runs that compute -/

/-- A run that comes to the result of a computation, and keeps a condition. -/
def Computes {α : Type} (P : World → Prop) (x : Run α) (r : Except Failure α) : Prop :=
  Triple P x (fun a w => r = .ok a ∧ P w) fun e w => (∃ f, r = .error f ∧ e = .failure f) ∧ P w

namespace Computes

variable {α β : Type} {P : World → Prop}

theorem pure {a : α} : Computes P (pure a) (.ok a) := Triple.pure fun _ hw => ⟨rfl, hw⟩

theorem ofExcept {r : Except Failure α} : Computes P (ofExcept r) r :=
  Triple.ofExcept (fun _ h _ hw => ⟨h, hw⟩) fun f h _ hw => ⟨⟨f, h, rfl⟩, hw⟩

theorem bind {x : Run α} {f : α → Run β} {r : Except Failure α} {g : α → Except Failure β}
    (hx : Computes P x r) (hf : ∀ a, Computes P (f a) (g a)) : Computes P (x >>= f) (r >>= g) := by
  intro w hw
  have hended := hx w hw
  rw [after_bind]
  cases hr : x.after w with
  | mk e v =>
    rw [hr] at hended
    cases e with
    | ok a =>
      obtain ⟨rfl, hv⟩ := hended
      exact hf a v hv
    | error e =>
      obtain ⟨⟨f, rfl, rfl⟩, hv⟩ := hended
      exact ⟨⟨f, rfl, rfl⟩, hv⟩

/-- Something is noted before a run. -/
theorem after_note {x : Run PUnit} {y : Run α} {r : Except Failure α}
    (hx : Keeps P (fun _ => False) x) (hy : Computes P y r) : Computes P (do x; y) r :=
  Triple.bind (Triple.mono_stop hx fun _ _ h => h.1.elim) fun _ => hy

theorem mapM {f : α → Run β} {g : α → Except Failure β} (h : ∀ a, Computes P (f a) (g a))
    (as : List α) : Computes P (as.mapM f) (as.mapM g) := by
  induction as with
  | nil =>
    rw [List.mapM_nil, List.mapM_nil]
    exact pure
  | cons a as ih =>
    rw [List.mapM_cons, List.mapM_cons]
    exact (h a).bind fun b => ih.bind fun bs => pure

end Computes

/-! ## Planning -/

theorem computes_pathOf {P : World → Prop} {home : Text} (hhome : ∀ w, P w → w.home = home)
    (v : Value) : Computes P (pathOf v) (Settings.pathIn home v) := by
  refine Triple.get.bind fun w => ?_
  rintro _ ⟨rfl, hw⟩
  rw [hhome _ hw]
  exact Computes.ofExcept _ hw

section

variable {P : World → Prop} (hP : Recorded P)

include hP

theorem computes_targetsIn (directory : Path) (taken : List Text) (sources : List Source) :
    Computes P (targetsIn directory taken sources) (Targets.spread directory taken sources) := by
  induction sources generalizing taken with
  | nil => exact Computes.pure
  | cons source sources ih =>
    rw [targetsIn, Targets.spread]
    refine Computes.ofExcept.bind fun stem => ?_
    dsimp only
    split_ifs
    · exact Computes.after_note (keeps_log hP _ _ _ _) ((ih _).bind fun _ => Computes.pure)
    · exact (ih _).bind fun _ => Computes.pure

/-- **Planning comes to the plan.** -/
theorem computes_planTargets {home : Text} (hhome : ∀ w, P w → w.home = home) (s : Settings) :
    Computes P (planTargets s) (s.plan home) := by
  rw [planTargets, Settings.plan]
  split_ifs
  · exact Computes.ofExcept.bind fun sources =>
      Computes.mapM (fun _ => (computes_pathOf hhome _).bind fun _ => Computes.pure) _
  · exact (computes_pathOf hhome _).bind fun _ => Computes.ofExcept.bind fun _ =>
      computes_targetsIn hP _ _ _
  · exact Computes.ofExcept.bind fun _ => Computes.pure

end

theorem planTargets_eq_ok_iff {s : Settings} {w : World} {targets : List (Option Path)} :
    ((planTargets s).after w).1 = .ok targets ↔ s.plan w.home = .ok targets := by
  have h := computes_planTargets (recorded_home w.home) (fun _ h => h) s w rfl
  cases hr : (planTargets s).after w with
  | mk r v =>
    rw [hr] at h
    cases r with
    | ok found =>
      rw [h.1]
      exact ⟨fun h => congrArg Except.ok (Except.ok.inj h),
        fun h => congrArg Except.ok (Except.ok.inj h)⟩
    | error e =>
      obtain ⟨⟨f, hf, -⟩, -⟩ := h
      rw [hf]
      exact ⟨nofun, nofun⟩

/-- The targets of a plan are of one of three kinds. -/
theorem planned_of_plan {s : Settings} {w : World} {targets : List (Option Path)}
    (h : s.plan w.home = .ok targets) :
    ∃ sources, s.sources = .ok sources ∧ Planned s sources.length targets :=
  (answers_planTargets s).of_after (v := ((planTargets s).after w).2)
    (Prod.ext (planTargets_eq_ok_iff.mpr h) rfl)

theorem wellFormed_of_plan {s : Settings} {w : World} {targets : List (Option Path)}
    (h : s.plan w.home = .ok targets) : ∀ target ∈ targets, ∀ t ∈ target, t.WellFormed :=
  (answers_planTargets_wellFormed s).of_after (v := ((planTargets s).after w).2)
    (Prod.ext (planTargets_eq_ok_iff.mpr h) rfl)

end Run

end HiveScript
