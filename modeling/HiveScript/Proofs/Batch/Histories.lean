import HiveScript.Proofs.Batch.Overwriting
import HiveScript.Proofs.Batch.Reports
import HiveScript.Proofs.Batch.Steps

/-!
# Histories of batches

How a batch goes from source to source, and what its whole history leaves in the world.

* `Run.Ran`: the history of some sources; **`triple_convertAll_ran`**.
* `Ran.exists_split`, `Ran.exists_halted`: the history up to an outcome, and up to its end.
* **`Ran.exists_follows`**, `Ran.output_eq`: the files that are written, and what is printed.
* **`World.Follows.text?_file`**: the text of a source under files.
* `Run.History`: the whole history of a batch; **`triple_batch_history`**.
-/

namespace HiveScript

namespace Outcome

/-- The files that scripts were written to, in this order. -/
def allFiles (s : Settings) (os : List Outcome) : List (Path × Bytes) := os.flatMap (files s)

/-- What was printed of outcomes. -/
def allPrinted (s : Settings) (os : List Outcome) : Text := os.flatMap (printed s)

theorem mem_allFiles {s : Settings} {os : List Outcome} {file : Path × Bytes} :
    file ∈ allFiles s os ↔ ∃ o ∈ os, ∃ t ∈ o.target,
      file = (t, s.scriptOctets (o.result.script.getD [])) := by
  simp only [allFiles, files, Settings.filesOf, List.mem_flatMap, List.mem_map, Option.mem_toList,
    Option.mem_def, eq_comm]

/-- Scripts that are written elsewhere leave what is at a place. -/
theorem overlay_allFiles {s : Settings} {os : List Outcome} {d : Disk} {q : Place} {x : Option Node}
    (h : ∀ o ∈ os, ∀ t ∈ o.target, Path.ofText t.text = t ∧ d.placeOf t ≠ q) :
    d.overlay q x (allFiles s os) = x := by
  refine Disk.overlay_of_forall_ne fun file hfile => ?_
  obtain ⟨o, ho, t, ht, rfl⟩ := mem_allFiles.mp hfile
  obtain ⟨htext, hne⟩ := h o ho t ht
  rwa [htext]

end Outcome

namespace Run

/-- The history of some sources: their outcomes up to one that ends the batch, if any does. -/
inductive Ran (s : Settings) : World → List (Source × Option Path) → List Outcome →
    Except Stop Unit → World → Prop
  | done (w : World) : Ran s w [] [] (.ok ()) w
  | halted {w v : World} {source : Source} {target : Option Path}
    {pairs : List (Source × Option Path)} {e : Stop} (h : Halted s source target w e v)
    (ordinary : e.Ordinary) : Ran s w ((source, target) :: pairs) [] (.error e) v
  | converted {w u v : World} {source : Source} {target : Option Path}
    {pairs : List (Source × Option Path)} {o : Outcome} {os : List Outcome} {r : Except Stop Unit}
    (h : Converted s source target w o u) (hrest : Ran s u pairs os r v) :
    Ran s w ((source, target) :: pairs) (o :: os) r v

theorem triple_convertAll_ran (s : Settings) (pairs : List (Source × Option Path)) (w : World) :
    Triple (fun v => v = w) (convertAll s pairs) (fun r v => Ran s w pairs r.1 r.2 v)
      fun _ _ => False := by
  induction pairs generalizing w with
  | nil =>
    refine Triple.pure ?_
    rintro _ rfl
    exact .done _
  | cons pair pairs ih =>
    obtain ⟨source, target⟩ := pair
    rw [convertAll]
    have hordinary : Keeps (fun _ => True) Stop.Ordinary (convertSource s source target) :=
      keeps_convertSource settled_true s source fun t _ => indifferent_true t
    have hstep := ((triple_convertSource_step (w := w) s source target).and hordinary).mono_before
      fun _ h => ⟨h, trivial⟩
    refine (triple_attempt hstep).bind fun r => ?_
    cases r with
    | error e => exact Triple.pure fun _ h => .halted h.1 h.2.1
    | ok o =>
      rintro u ⟨hu, -⟩
      exact ((ih u).bind fun r => Triple.pure fun _ h => .converted hu h) u rfl

namespace Ran

variable {s : Settings} {w v : World} {pairs : List (Source × Option Path)} {os : List Outcome}
  {r : Except Stop Unit}

/-! ## Parts of histories -/

/-- The history up to an outcome, and from there on. -/
theorem exists_split {pre post : List Outcome} {o : Outcome}
    (h : Ran s w pairs (pre ++ o :: post) r v) :
    ∃ earlier pair later u u', pairs = earlier ++ pair :: later ∧ Ran s w earlier pre (.ok ()) u ∧
      Converted s pair.1 pair.2 u o u' ∧ Ran s u' later post r v := by
  induction pre generalizing w pairs with
  | nil =>
    cases h with
    | converted h hrest => exact ⟨[], _, _, w, _, rfl, .done w, h, hrest⟩
  | cons o' pre ih =>
    cases h with
    | converted h hrest =>
      obtain ⟨earlier, pair, later, u, u', rfl, hbefore, ho, hafter⟩ := ih hrest
      exact ⟨_ :: earlier, pair, later, u, u', rfl, .converted h hbefore, ho, hafter⟩

/-- The history up to the source that ends it. -/
theorem exists_halted {e : Stop} (h : Ran s w pairs os (.error e) v) :
    ∃ earlier pair later u, pairs = earlier ++ pair :: later ∧ Ran s w earlier os (.ok ()) u ∧
      Halted s pair.1 pair.2 u e v := by
  generalize hr : (Except.error e : Except Stop Unit) = r at h
  induction h with
  | done w => cases hr
  | halted h _ =>
    obtain rfl := Except.error.inj hr
    exact ⟨[], _, _, _, rfl, .done _, h⟩
  | converted h _ ih =>
    obtain ⟨earlier, pair, later, u, rfl, hbefore, hlast⟩ := ih hr
    exact ⟨_ :: earlier, pair, later, u, rfl, .converted h hbefore, hlast⟩

theorem ordinary {e : Stop} (h : Ran s w pairs os r v) (hr : r = .error e) : e.Ordinary := by
  induction h with
  | done w => cases hr
  | halted _ ordinary => exact Except.error.inj hr ▸ ordinary
  | converted _ _ ih => exact ih hr

/-- **What holds of each conversion in a whole history** relates its sources to the outcomes. -/
theorem forall₂ {R : Source × Option Path → Outcome → Prop} (h : Ran s w pairs os (.ok ()) v)
    (hR : ∀ earlier pair later pre o u u', pairs = earlier ++ pair :: later →
      Ran s w earlier pre (.ok ()) u → Converted s pair.1 pair.2 u o u' → R pair o) :
    List.Forall₂ R pairs os := by
  generalize hr : (Except.ok () : Except Stop Unit) = r at h
  induction h with
  | done w => exact .nil
  | halted _ _ => cases hr
  | @converted w u v source target pairs o os r h hrest ih =>
    refine .cons (hR [] _ pairs [] o w u rfl (.done w) h) (ih (fun earlier pair later pre o u u'
      hpairs hran ho => ?_) hr)
    exact hR (_ :: earlier) pair later (_ :: pre) o u u' (by rw [hpairs]; rfl)
      (.converted h hran) ho

/-- Scripts are written to targets that can be paths. -/
theorem target_mem (h : Ran s w pairs os r v) {o : Outcome} (ho : o ∈ os) {t : Path}
    (ht : t ∈ o.target) : checkPath t.text = .ok () ∧ ∃ pair ∈ pairs, t ∈ pair.2 := by
  obtain ⟨pre, post, rfl⟩ := List.append_of_mem ho
  obtain ⟨earlier, pair, later, u, u', rfl, -, hconverted, -⟩ := h.exists_split
  refine ⟨hconverted.check t ht, pair, List.mem_append_right _ List.mem_cons_self, ?_⟩
  rw [hconverted.target_eq] at ht
  split_ifs at ht
  · exact ht
  · cases ht

/-! ## What a history leaves -/

/-- **The files of a history**, with directories on the way to what it tried to write. -/
theorem exists_follows (h : Ran s w pairs os r v) :
    ∃ tried, w.Follows (Outcome.allFiles s os) tried v ∧
      (∀ t ∈ tried, ∃ pair ∈ pairs, t ∈ pair.2) ∧
      (r = .ok () → tried = os.flatMap fun o => o.target.toList) := by
  induction h with
  | done w => exact ⟨[], .refl w, fun _ ht => absurd ht List.not_mem_nil, fun _ => rfl⟩
  | halted h _ =>
    exact ⟨_, h.follows, fun t ht => ⟨_, List.mem_cons_self, by simpa using ht⟩, nofun⟩
  | @converted w u v source target pairs o os r h _ ih =>
    obtain ⟨tried, hfollows, htried, hr⟩ := ih
    refine ⟨o.target.toList ++ tried, h.becomes.follows.trans hfollows, fun t ht => ?_,
      fun hok => ?_⟩
    · rcases List.mem_append.mp ht with ht | ht
      · refine ⟨_, List.mem_cons_self, ?_⟩
        rw [Option.mem_toList, h.target_eq] at ht
        split_ifs at ht
        exact ht
      · obtain ⟨pair, hpair, ht⟩ := htried t ht
        exact ⟨pair, List.mem_cons_of_mem _ hpair, ht⟩
    · rw [hr hok]
      rfl

/-- Scripts are printed one after the other. -/
theorem output_eq (h : Ran s w pairs os r v) :
    v.output = w.output.adding (Outcome.allPrinted s os) := by
  induction h with
  | done w => exact (Stream.adding_nil _).symm
  | halted h _ => exact h.output.trans (Stream.adding_nil _).symm
  | @converted w u v source target pairs o os r h _ ih =>
    rw [ih, h.becomes.output, Stream.adding_adding]
    rfl

/-- Files leave what stands ready on the standard input. -/
theorem input_eq (h : Ran s w pairs os r v) (hr : r = .ok ())
    (hfiles : ∀ pair ∈ pairs, pair.1 ≠ .standardInput) : v.input = w.input := by
  induction h with
  | done w => rfl
  | halted _ _ => cases hr
  | @converted w u v source target pairs o os r h _ ih =>
    obtain ⟨hsource, hfiles⟩ := List.forall_mem_cons.mp hfiles
    rw [ih hr hfiles, h.becomes.input]
    cases source with
    | standardInput => exact absurd rfl hsource
    | file path => rfl
    | unfit u => rfl

end Ran

end Run

/-! ## Sources under files -/

namespace World

variable {w v : World} {files : List (Path × Bytes)} {tried : List Path} {path : Text}
  {content content' : Bytes} {q : Place}

/-- **The text of a source is that of the last file that was written over it**, if there is any. -/
theorem Follows.text?_file (h : w.Follows files tried v)
    (hcheck : checkPath (Path.ofText path).text = .ok ())
    (hl : w.disk.locate (Path.ofText path).text = .ok q) (hquiet : w.Quiet q)
    (hcontent : w.disk.overlay q (w.disk.find? q) files = some (.file content')) :
    v.text? (.file path) = some (decodeExport content') := by
  refine text?_file_eq_some_iff.mpr ⟨hcheck, q, content', h.grows.locate hl, ?_, rfl⟩
  rcases h.find? q hquiet with he | ⟨hnone, -, -⟩
  · exact he.trans hcontent
  · exact absurd (hcontent.symm.trans hnone) nofun

theorem Follows.quietFor (h : w.Follows files tried v)
    (hl : w.disk.locate (Path.ofText path).text = .ok q) (hquiet : w.Quiet q) :
    v.QuietFor (.file path) := by
  intro r hr
  obtain rfl : q = r := Except.ok.inj ((h.grows.locate hl).symm.trans hr)
  exact h.quiet q hquiet

end World

namespace Run

/-! ## Whole batches -/

/-- The end of a batch whose sources all have an outcome: the report is printed if there is to be
one, and the status tells whether any source failed. -/
inductive Concluded (s : Settings) (os : List Outcome) (w : World) : Except Stop Nat → World → Prop
  | told {v : World} {report : Text} (report_eq : s.reportText os = .ok report)
    (becomes : w.Becomes [] [] w.input (w.output.adding report) v) :
    Concluded s os w (.ok (Outcome.status os)) v
  | untold {v : World} {f : Failure} (idles : w.Idles v)
    (cause : s.reportText os >>= w.output.write = .error f) :
    Concluded s os w (.error (.failure f)) v

theorem Concluded.follows {s : Settings} {os : List Outcome} {w v : World}
    {status : Except Stop Nat} (h : Concluded s os w status v) : w.Follows [] [] v := by
  cases h with
  | told _ becomes => exact becomes.follows
  | untold idles _ => exact idles.follows

theorem recorded_concluded (s : Settings) (os : List Outcome) (w : World)
    (status : Except Stop Nat) : Recorded fun v => Concluded s os w status v := by
  refine ⟨fun r v h => ?_⟩
  cases h with
  | told report_eq becomes =>
    exact .told report_eq ((recorded_becomes _ _ _ _ _).emit r v becomes)
  | untold idles cause => exact .untold ((recorded_becomes _ _ _ _ _).emit r v idles) cause

theorem triple_concludeBatch (s : Settings) (os : List Outcome) (w : World) :
    Triple (fun v => v = w) (concludeBatch s os) (fun n v => Concluded s os w (.ok n) v)
      fun e v => Concluded s os w (.error e) v := by
  have hidles : w.Idles w := ⟨.refl w, rfl, rfl⟩
  have hlog : ∀ {P : World → Prop} level template (n : Nat), n = Outcome.status os →
      (∀ v, P v → Concluded s os w (.ok (Outcome.status os)) v) →
      Triple P (do log level batchRecordSource template []; return n)
        (fun n v => Concluded s os w (.ok n) v) fun e v => Concluded s os w (.error e) v := by
    rintro P level template _ rfl hP
    exact Triple.bind (Triple.modify fun v hv => (recorded_concluded s os w _).emit _ v (hP v hv))
      fun _ => Triple.pure fun _ h => h
  have hreport : ∀ {x : Run Nat}, s.reports = true →
      Triple (fun v => Concluded s os w (.ok (Outcome.status os)) v) x
        (fun n v => Concluded s os w (.ok n) v) (fun e v => Concluded s os w (.error e) v) →
      Triple (fun v => v = w) (do
        print ((← ofExcept (Json.report (Outcome.report os))) ++ [Point.lineFeed])
        x) (fun n v => Concluded s os w (.ok n) v) fun e v => Concluded s os w (.error e) v := by
    intro x hreports hx
    have htext : ∀ {r : Except Failure Text}, Json.report (Outcome.report os) = r →
        s.reportText os = r.map (· ++ [Point.lineFeed]) := by
      rintro r rfl
      rw [Settings.reportText, if_pos hreports]
      cases Json.report (Outcome.report os) <;> rfl
    refine Triple.bind (Q := fun report v => Json.report (Outcome.report os) = .ok report ∧ v = w)
      (Triple.ofExcept (fun _ h _ hv => ⟨h, hv⟩) ?_) fun report => ?_
    · rintro f hf _ rfl
      exact .untold hidles (by rw [htext hf]; rfl)
    · rintro v ⟨hreport, rfl⟩
      refine (Triple.bind ((triple_print (report ++ [Point.lineFeed])).mono (fun _ h => h) ?_ ?_)
        fun _ => hx) v rfl
      · rintro _ _ rfl
        exact .told (htext hreport) ⟨(settled_follows [] [] v).output _ v (.refl v), rfl, rfl⟩
      · rintro _ _ ⟨rfl, f, hf, rfl⟩
        exact .untold hidles (by rw [htext hreport]; exact hf)
  have hsilent : ¬ s.reports = true → Concluded s os w (.ok (Outcome.status os)) w := by
    intro h
    have hreport : s.reportText os = .ok [] := if_neg h
    refine .told hreport ?_
    rw [Stream.adding_nil]
    exact hidles
  unfold concludeBatch
  dsimp only
  split_ifs with hreports hfailed hfailed
  · exact hreport hreports (hlog _ _ _ (Outcome.status_of_failed hfailed).symm fun _ h => h)
  · exact hreport hreports (hlog _ _ _ (Outcome.status_of_not_failed hfailed).symm fun _ h => h)
  · refine hlog _ _ _ (Outcome.status_of_failed hfailed).symm ?_
    rintro _ rfl
    exact hsilent hreports
  · refine hlog _ _ _ (Outcome.status_of_not_failed hfailed).symm ?_
    rintro _ rfl
    exact hsilent hreports

/-- The history of a batch. -/
inductive History (s : Settings) (w : World) : BatchEnding → World → Prop
  | unprepared {v : World} {e : Stop} (idles : w.Idles v)
    (unprepared : Unprepared s w.home w.Idles e) : History s w ⟨[], .error e⟩ v
  | stopped {u v : World} {sources : List Source} {targets : List (Option Path)} {os : List Outcome}
    {e : Stop} (sources_eq : s.sources = .ok sources) (plan : s.plan w.home = .ok targets)
    (idles : w.Idles u) (checked : ∀ target ∈ targets, ∀ t ∈ target, Checked s u.disk t)
    (ran : Ran s u (sources.zip targets) os (.error e) v) : History s w ⟨os, .error e⟩ v
  | concluded {u u' v : World} {sources : List Source} {targets : List (Option Path)}
    {os : List Outcome} {status : Except Stop Nat} (sources_eq : s.sources = .ok sources)
    (plan : s.plan w.home = .ok targets) (idles : w.Idles u)
    (checked : ∀ target ∈ targets, ∀ t ∈ target, Checked s u.disk t)
    (ran : Ran s u (sources.zip targets) os (.ok ()) u')
    (concluded : Concluded s os u' status v) : History s w ⟨os, status⟩ v

/-- **A batch has a history.** -/
theorem triple_batch_history (s : Settings) (w : World) :
    Triple (fun v => v = w) (batch s) (fun ending v => History s w ending v) fun _ _ => False := by
  have hidles : w.Idles w := ⟨.refl w, rfl, rfl⟩
  refine triple_batch (Q := fun pairs u => ∃ sources targets, pairs = sources.zip targets ∧
      s.sources = .ok sources ∧ s.plan w.home = .ok targets ∧ w.Idles u ∧
      ∀ target ∈ targets, ∀ t ∈ target, Checked s u.disk t)
    (R := fun r v => ∃ u sources targets, s.sources = .ok sources ∧ s.plan w.home = .ok targets ∧
      w.Idles u ∧ (∀ target ∈ targets, ∀ t ∈ target, Checked s u.disk t) ∧
      Ran s u (sources.zip targets) r.1 r.2 v) ?_ ?_ ?_ ?_
  · refine (triple_prepareBatch ((recorded_becomes [] [] w.input w.output w).and
      (recorded_home w.home)) (fun _ h => h.2) s).mono ?_ ?_ ?_
    · rintro _ rfl
      exact ⟨hidles, rfl⟩
    · rintro pairs u ⟨⟨hu, -⟩, sources, targets, hsources, hplan, rfl, hchecked⟩
      exact ⟨sources, targets, rfl, hsources, hplan, hu, hchecked⟩
    · rintro e v ⟨⟨hv, -⟩, hunprepared⟩
      exact .unprepared hv (hunprepared.mono fun _ h => h.1)
  · intro pairs u hu
    obtain ⟨sources, targets, rfl, hsources, hplan, hidles, hchecked⟩ := hu
    refine (triple_convertAll_ran s _ u).mono (fun _ h => h) (fun r v h => ?_) (fun _ _ h => h) u
      rfl
    exact ⟨u, sources, targets, hsources, hplan, hidles, hchecked, h⟩
  · rintro os e v ⟨u, sources, targets, hsources, hplan, hidles, hchecked, hran⟩
    exact .stopped hsources hplan hidles hchecked hran
  · rintro os v ⟨u, sources, targets, hsources, hplan, hidles, hchecked, hran⟩
    exact (triple_concludeBatch s os v).mono (fun _ h => h)
      (fun _ _ h => .concluded hsources hplan hidles hchecked hran h)
      (fun _ _ h => .concluded hsources hplan hidles hchecked hran h) v rfl

namespace History

variable {s : Settings} {w v : World} {ending : BatchEnding}

/-- A batch that ends early ends in an ordinary stop. -/
theorem ordinary (h : History s w ending v) {e : Stop} (he : ending.status = .error e) :
    e.Ordinary := by
  cases h with
  | unprepared _ unprepared => exact Except.error.inj he ▸ unprepared.ordinary
  | stopped _ _ _ _ ran => exact Except.error.inj he ▸ ran.ordinary rfl
  | concluded _ _ _ _ _ concluded =>
    cases concluded with
    | told => cases he
    | untold _ _ => exact Except.error.inj he ▸ .failure _

/-- The status of a batch tells whether any source failed. -/
theorem status_eq (h : History s w ending v) {n : Nat} (hn : ending.status = .ok n) :
    n = Outcome.status ending.outcomes := by
  cases h with
  | unprepared => cases hn
  | stopped => cases hn
  | concluded _ _ _ _ _ concluded =>
    cases concluded with
    | told => exact (Except.ok.inj hn).symm
    | untold => cases hn

/-- The targets that scripts were written to were planned. -/
theorem target_mem (h : History s w ending v) {o : Outcome} (ho : o ∈ ending.outcomes) {t : Path}
    (ht : t ∈ o.target) : checkPath t.text = .ok () ∧ ∃ targets u,
      s.plan w.home = .ok targets ∧ some t ∈ targets ∧ w.Idles u ∧ Checked s u.disk t := by
  have hmem : ∀ {sources : List Source} {targets : List (Option Path)},
      (∃ pair ∈ sources.zip targets, t ∈ pair.2) → some t ∈ targets := by
    rintro sources targets ⟨pair, hpair, ht⟩
    rw [← Option.mem_def.mp ht]
    exact (List.of_mem_zip hpair).2
  cases h with
  | unprepared => exact absurd ho List.not_mem_nil
  | stopped _ plan idles checked ran =>
    obtain ⟨hcheck, hpair⟩ := ran.target_mem ho ht
    exact ⟨hcheck, _, _, plan, hmem hpair, idles, checked _ (hmem hpair) t rfl⟩
  | concluded _ plan idles checked ran _ =>
    obtain ⟨hcheck, hpair⟩ := ran.target_mem ho ht
    exact ⟨hcheck, _, _, plan, hmem hpair, idles, checked _ (hmem hpair) t rfl⟩

/-- **The files of a batch**, with directories on the way to what it tried to write. -/
theorem exists_follows (h : History s w ending v) :
    ∃ tried, w.Follows (Outcome.allFiles s ending.outcomes) tried v := by
  cases h with
  | unprepared idles _ => exact ⟨[], idles.follows⟩
  | stopped _ _ idles _ ran =>
    obtain ⟨tried, hran, -⟩ := ran.exists_follows
    exact ⟨tried, idles.follows.trans hran⟩
  | concluded _ _ idles _ ran concluded =>
    obtain ⟨tried, hran, -⟩ := ran.exists_follows
    have h := (idles.follows.trans hran).trans concluded.follows
    simp only [List.append_nil, List.nil_append] at h
    exact ⟨tried, h⟩

/-- The targets of outcomes are paths as they are written. -/
theorem ofText_text (h : History s w ending v) {o : Outcome} (ho : o ∈ ending.outcomes) {t : Path}
    (ht : t ∈ o.target) : Path.ofText t.text = t := by
  obtain ⟨-, targets, u, hplan, hmem, -⟩ := h.target_mem ho ht
  exact Path.ofText_text (wellFormed_of_plan hplan _ hmem t rfl)

/-- Scripts that are written elsewhere leave what is at a place. -/
theorem overlay_eq (h : History s w ending v) {os : List Outcome} (hos : os ⊆ ending.outcomes)
    {q : Place} {x : Option Node}
    (hne : ∀ o ∈ os, ∀ t ∈ o.target, w.disk.placeOf t ≠ q) :
    w.disk.overlay q x (Outcome.allFiles s os) = x :=
  Outcome.overlay_allFiles fun o ho t ht => ⟨h.ofText_text (hos ho) ht, hne o ho t ht⟩

/-- **An outcome comes from its source in a world under the files of the outcomes before it.** -/
theorem exists_converted (h : History s w ending v) {pre post : List Outcome} {o : Outcome}
    (ho : ending.outcomes = pre ++ o :: post) :
    ∃ tried u u' target, w.Follows (Outcome.allFiles s pre) tried u ∧
      Converted s o.source target u o u' := by
  have hran : ∀ {w' v : World} {pairs : List (Source × Option Path)} {r : Except Stop Unit},
      w.Idles w' → Ran s w' pairs (pre ++ o :: post) r v →
      ∃ tried u u' target, w.Follows (Outcome.allFiles s pre) tried u ∧
        Converted s o.source target u o u' := by
    intro w' v pairs r hidles hran
    obtain ⟨earlier, pair, later, u, u', -, hbefore, hconverted, -⟩ := hran.exists_split
    obtain ⟨tried, hfollows, -⟩ := hbefore.exists_follows
    exact ⟨tried, u, u', pair.2, hidles.follows.trans hfollows, hconverted.source_eq ▸ hconverted⟩
  cases h with
  | unprepared => exact absurd (congrArg List.length ho) (by simp)
  | stopped _ _ idles _ ran =>
    obtain rfl := ho
    exact hran idles ran
  | concluded _ _ idles _ ran _ =>
    obtain rfl := ho
    exact hran idles ran

end History

end Run

end HiveScript
