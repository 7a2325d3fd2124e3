import HiveScript.Program.Preparation
import HiveScript.Proofs.Batch.Scripts
import HiveScript.Proofs.Log.Setup
import HiveScript.Proofs.Options.CommandLines

/-!
# Preparations

How the preparation of a run can end early: with a status, with a fatal fault, or in a failure.

* `Stop.Early`: these stops.
* `keeps_mergedConfiguration`, `keeps_checkSettings`: the parts of a preparation.
* **`keeps_prepare`**: a whole preparation.
-/

namespace HiveScript

/-- The stops that a preparation can end in. -/
inductive Stop.Early : Stop → Prop
  | fatal (message : Text) : Early (.fault (.fatal message))
  | failure (f : Failure) : Early (.failure f)
  | code {n : Nat} (h : n ≤ 255) : Early (.exit (.code n))
  | message (s : Text) : Early (.exit (.message s))

theorem Stop.IsFailure.early {e : Stop} (he : e.IsFailure) : e.Early := by
  obtain ⟨f, rfl⟩ := he
  exact .failure f

namespace Run

/-! ## All preparations -/

theorem keeps_nodeAt {S : Stop → Prop} (path : Text) : Keeps (fun _ => True) S (nodeAt path) := by
  rw [nodeAt]
  split
  · exact Keeps.pure
  · exact Keeps.get.bind fun _ => Keeps.pure

theorem keeps_exitWithReport {α : Type} (v : Value) :
    Keeps (fun _ => True) Stop.Early (exitWithReport v : Run α) :=
  (Keeps.ofExcept .failure).bind fun _ =>
    (keeps_print settled_true .failure _).bind fun _ => Keeps.throw (.code (by decide))

theorem keeps_printMessage (t : Text) : Keeps (fun _ => True) Stop.Early (printMessage t) :=
  Keeps.get.bind fun _ => (Keeps.ofExcept .failure).bind fun _ => Triple.set fun _ h => h

theorem keeps_readCommandLine (synopsis : Synopsis) (s : Settings) (arguments : List Text) :
    Keeps (fun _ => True) Stop.Early (readCommandLine synopsis s arguments) := by
  rw [readCommandLine]
  refine (Keeps.ofExcept .failure).bind fun ending => ?_
  split
  · exact Keeps.pure
  · exact Keeps.get.bind fun _ => (Keeps.ofOption (.failure _)).bind fun _ =>
      (keeps_print settled_true .failure _).bind fun _ => Keeps.throw (.code (by decide))
  · exact (keeps_print settled_true .failure _).bind fun _ => Keeps.throw (.code (by decide))
  · exact (keeps_printMessage _).bind fun _ => Keeps.throw (.code (by decide))

theorem keeps_loadConfiguration (path : Path) :
    Keeps (fun _ => True) Stop.Early (loadConfiguration path) := by
  have hdie : ∀ {α : Type} message,
      Keeps (fun _ => True) Stop.Early (refuseConfiguration path message : Run α) :=
    fun _ => keeps_die settled_true.toRecorded (.fatal _)
  have hread : Keeps (fun _ => True) Stop.Early (readConfiguration path) := by
    have hfile : Keeps (fun _ => True) Stop.Early (readFile path.text) :=
      (Keeps.ofExcept .failure).bind fun _ => Keeps.get.bind fun _ =>
        keeps_refuse.mono fun _ h => h.early
    refine (hfile.bind fun _ => Keeps.pure).tryCatch fun e he => ?_
    split
    · exact Keeps.pure
    · exact Keeps.throw he
  rw [loadConfiguration]
  refine hread.bind fun r => ?_
  split
  · exact hdie _
  · split
    · split
      · exact Keeps.throw (.failure _)
      · exact hdie _
    · exact (keeps_log settled_true.toRecorded _ _ _ _).bind fun _ => Keeps.ofExcept .failure

theorem keeps_mergedConfiguration (arguments : List Value) :
    Keeps (fun _ => True) Stop.Early (mergedConfiguration arguments) := by
  have hname : ∀ path, Keeps (fun _ => True) Stop.Early (isConfiguration path) := by
    intro path
    refine ((keeps_find? _).mono fun _ h => h.early).bind fun node => ?_
    split <;> exact Keeps.pure
  have hdirectory : ∀ path, Keeps (fun _ => True) Stop.Early (configurationsIn path) := fun path =>
    Keeps.get.bind fun _ => (keeps_refuse.mono fun _ h => h.early).bind fun _ =>
      (Keeps.filterM fun _ _ => hname _).bind fun _ => Keeps.pure
  have hexpand : ∀ argument, Keeps (fun _ => True) Stop.Early (expandConfiguration argument) := by
    intro argument
    refine ((keeps_pathOf _).mono fun _ h => h.early).bind fun path =>
      ((keeps_find? _).mono fun _ h => h.early).bind fun node => ?_
    split
    · refine (hdirectory path).bind fun files => ?_
      split_ifs
      · exact (keeps_log settled_true.toRecorded _ _ _ _).bind fun _ => Keeps.pure
      · exact Keeps.pure
    · exact Keeps.pure
    · exact keeps_die settled_true.toRecorded (.fatal _)
  refine Keeps.bind (Keeps.bind (Keeps.mapM fun a _ => hexpand a) fun _ => Keeps.pure)
    fun paths => ?_
  exact Keeps.foldlM fun _ path _ => (keeps_loadConfiguration path).bind fun _ => Keeps.pure

theorem keeps_applyConfiguration (s : Settings) (configuration : Entries) :
    Keeps (fun _ => True) Stop.Early (applyConfiguration s configuration) := by
  fun_induction applyConfiguration s configuration with
  | case1 => exact Keeps.pure
  | case2 _ _ _ _ _ ih => exact ih
  | case3 _ _ _ _ _ ih => exact (keeps_log settled_true.toRecorded _ _ _ _).bind fun _ => ih
  | case4 _ _ _ _ ih => exact ih

/-- Settings are checked. The names of inputs, the directory and the header may not be told. -/
theorem keeps_checkSettings {S : Stop → Prop} {s : Settings}
    (hexit : ∀ message, S (.exit (.message message)))
    (hinputs : ∀ f, s.namedInputs = .error f → S (.failure f))
    (hdisplay : ∀ v ∈ [s.get "output_dir", s.get "header"], v.display? = none →
      S (.failure .numeralNotWritten)) :
    Keeps (fun _ => True) S (checkSettings s) := by
  have hexits : ∀ {α : Type} message, Keeps (fun _ => True) S (exitWith message : Run α) :=
    fun _ => Keeps.throw (hexit _)
  have hdisplays : ∀ v ∈ [s.get "output_dir", s.get "header"],
      Keeps (fun _ => True) S (display v) := by
    intro v hv
    rw [display]
    cases hnone : v.display? with
    | some t => exact Keeps.pure
    | none => exact Keeps.throw (hdisplay v hv hnone)
  have hinput : ∀ name, Keeps (fun _ => True) S (checkInput name) := by
    intro name
    rw [checkInput]
    split_ifs
    · refine (keeps_nodeAt _).bind fun node => ?_
      split
      · exact hexits _
      · exact hexits _
      · exact Keeps.pure
    · exact Keeps.pure
  have hnames : ∀ inputs, Keeps (fun _ => True) S (checkInputs inputs) :=
    fun _ => Keeps.optional (hexits _) fun _ => Keeps.forM fun name _ => hinput name
  have hdirectory : Keeps (fun _ => True) S (checkDirectory (s.get "output_dir")) := by
    refine (hdisplays _ List.mem_cons_self).bind fun name => (keeps_nodeAt name).bind fun node => ?_
    split
    · exact hexits _
    · exact Keeps.pure
  have houtput : ∀ inputs, Keeps (fun _ => True) S (checkOutput s inputs) := by
    intro inputs
    refine Keeps.optional (hexits _) fun _ => Keeps.optional (hexits _) fun _ =>
      Keeps.optional (hexits _) fun _ => ?_
    split_ifs
    · exact hdirectory
    · exact Keeps.pure
  have hheader : Keeps (fun _ => True) S (checkHeader s) := by
    rw [checkHeader]
    split_ifs
    · refine (hdisplays _ (List.mem_cons_of_mem _ List.mem_cons_self)).bind fun text => ?_
      split_ifs
      · exact hexits _
      · exact Keeps.pure
    · exact Keeps.pure
  refine Keeps.bind (Triple.ofExcept (fun _ _ _ h => h) fun f hf _ h => ⟨hinputs f hf, h⟩)
    fun inputs => ?_
  exact (hnames inputs).bind fun _ => (houtput inputs).bind fun _ =>
    hheader.bind fun _ => Keeps.pure

/-- **A preparation ends early in one of these stops.** -/
theorem keeps_prepare (keepLog : Bool) (arguments : List Text) :
    Keeps (fun _ => True) Stop.Early (prepare keepLog arguments) := by
  have hsetup : ∀ l, Keeps (fun _ => True) Stop.Early (setUpLog l) := fun l =>
    (keeps_setUpLog settled_true.toRecorded (fun _ _ h => h) (fun _ _ _ h _ => h)
      (fun _ _ _ _ h _ => h) l).mono fun _ h => h.early
  have hlog : ∀ {c : Prop} [Decidable c] {s : Settings} {f : Unit → Run Prepared},
      (∀ u, Keeps (fun _ => True) Stop.Early (f u)) →
      Keeps (fun _ => True) Stop.Early
        (if c then (do f (← setUpLog (← ofExcept s.logSettings))) else f ()) := by
    intro c _ s f hf
    split_ifs
    · exact (Keeps.ofExcept .failure).bind fun l => (hsetup l).bind hf
    · exact hf ()
  have hsettle : ∀ configuration,
      Keeps (fun _ => True) Stop.Early (settle configuration arguments) :=
    fun _ => (keeps_applyConfiguration _ _).bind fun _ => keeps_readCommandLine _ _ _
  rw [prepare]
  refine (keeps_readCommandLine _ _ _).bind fun early => hlog fun _ => ?_
  refine (Keeps.ofExcept .failure).bind fun _ => (keeps_mergedConfiguration _).bind
    fun configuration => ?_
  refine Keeps.optional (keeps_exitWithReport _) fun _ => (hsettle _).bind fun settings =>
    hlog fun _ => Keeps.optional (keeps_exitWithReport _) fun _ => ?_
  exact (keeps_checkSettings .message (fun f _ => .failure f) fun _ _ _ => .failure _).bind
    fun _ => Keeps.pure

end Run

end HiveScript
