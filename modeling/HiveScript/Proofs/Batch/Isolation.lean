import HiveScript.Proofs.Batch.Sparing

/-!
# Isolated batches

A batch whose inputs can be read and whose targets are free gives each input the outcome that it
would have alone, and accounts for all of them: on the disk, on the output, in its report and in its
status.

* `Run.Isolated`: what such a batch starts from.
* `Isolated.result?_eq`: the scripts of earlier inputs leave the later inputs as they are.
* `triple_batch_free`: no target is found taken.
* `Undelivered`: the only reasons for such a batch to end early.
* `Accounted`: what it leaves when it does not.
* **`batch_isolated`**: the account of such a batch.
-/

namespace HiveScript.Run

/-- All inputs of a batch can be read, and the standard input is among them at most once. Its
targets are told apart, nothing is found at them, and no path goes up from where no directory is. No
sink adds to an input. -/
structure Isolated (s : Settings) (w : World) (sources : List Source)
    (targets : List (Option Path)) : Prop where
  force : s.has "force" = false
  sources_eq : s.sources = .ok sources
  plan : s.plan w.home = .ok targets
  single : sources.countP Source.isStandardInput ≤ 1
  distinct : targets.reduceOption.Nodup
  absent : ∀ target ∈ targets, ∀ t ∈ target, ¬ w.Shows t
  readable : ∀ source ∈ sources, (w.result? source).isSome
  quiet : ∀ source ∈ sources, w.QuietFor source
  sound : w.disk.IsSound
  level : ∀ target ∈ targets, ∀ t ∈ target, ¬ w.disk.Climbs t

variable {s : Settings} {w u v : World} {sources : List Source} {targets : List (Option Path)}

namespace Isolated

theorem sharesFile (h : Isolated s w sources targets) : ¬ s.SharesFile := by
  obtain ⟨found, hfound, hplanned⟩ := planned_of_plan h.plan
  have hn := hplanned.nodup_iff.mp h.distinct
  rintro ⟨houtput, sources', hsources', hlength⟩
  obtain rfl : found = sources' := Except.ok.inj (hfound.symm.trans hsources')
  exact hn ⟨houtput, hlength⟩

theorem length_eq (h : Isolated s w sources targets) : targets.length = sources.length := by
  obtain ⟨found, hfound, hplanned⟩ := planned_of_plan h.plan
  obtain rfl : sources = found := Except.ok.inj (h.sources_eq.symm.trans hfound)
  exact hplanned.length_eq

/-- Nothing is where a target goes that passes its check. -/
theorem find?_placeOf (h : Isolated s w sources targets) (hu : w.Idles u)
    (hchecked : ∀ target ∈ targets, ∀ t ∈ target, Checked s u.disk t) {t : Path}
    (ht : some t ∈ targets) (hcheck : checkPath t.text = .ok ()) :
    w.disk.find? (w.disk.placeOf t) = none :=
  (hchecked _ ht t rfl).find?_placeOf hu h.force h.sound (wellFormed_of_plan h.plan _ ht t rfl)
    hcheck (h.level _ ht t rfl)

/-- Scripts are written to where nothing was. -/
theorem target_free (h : Isolated s w sources targets) (hu : w.Idles u)
    (hchecked : ∀ target ∈ targets, ∀ t ∈ target, Checked s u.disk t)
    {earlier later : List (Source × Option Path)} (hpairs : sources.zip targets = earlier ++ later)
    {os : List Outcome} {r : Except Stop Unit} (hran : Ran s u earlier os r v) {o : Outcome}
    (ho : o ∈ os) {t : Path} (ht : t ∈ o.target) :
    Path.ofText t.text = t ∧ w.disk.find? (w.disk.placeOf t) = none := by
  obtain ⟨hfit, pair, hpair, ht⟩ := hran.target_mem ho ht
  have htarget : some t ∈ targets := by
    rw [← Option.mem_def.mp ht]
    exact (List.of_mem_zip (hpairs ▸ List.mem_append_left _ hpair)).2
  exact ⟨Path.ofText_text (wellFormed_of_plan h.plan _ htarget t rfl),
    h.find?_placeOf hu hchecked htarget hfit⟩

/-- **A source is at its turn what it was at the start.** -/
theorem result?_eq (h : Isolated s w sources targets) (hu : w.Idles u)
    (hchecked : ∀ target ∈ targets, ∀ t ∈ target, Checked s u.disk t)
    {earlier later : List (Source × Option Path)} {pair : Source × Option Path}
    (hpairs : sources.zip targets = earlier ++ pair :: later) {os : List Outcome}
    (hran : Ran s u earlier os (.ok ()) v) :
    v.QuietFor pair.1 ∧ v.result? pair.1 = w.result? pair.1 := by
  have hsources : sources = earlier.map Prod.fst ++ pair.1 :: later.map Prod.fst := by
    rw [← List.map_fst_zip h.length_eq.ge, hpairs, List.map_append, List.map_cons]
  have hmem : pair.1 ∈ sources := hsources ▸ List.mem_append_right _ List.mem_cons_self
  have hreadable := h.readable _ hmem
  have hquiet := h.quiet _ hmem
  cases hsource : pair.1 with
  | unfit x =>
    rw [hsource] at hreadable
    cases hreadable
  | standardInput =>
    -- It has not been read before.
    have hfiles : ∀ p ∈ earlier, p.1 ≠ .standardInput := by
      intro p hp hinput
      have hsingle := h.single
      have hpos : 0 < (earlier.map Prod.fst).countP Source.isStandardInput :=
        List.countP_pos_iff.mpr ⟨p.1, List.mem_map_of_mem hp, by rw [hinput]; rfl⟩
      rw [hsources, List.countP_append, hsource, List.countP_cons_of_pos (by rfl)] at hsingle
      omega
    refine ⟨trivial, ?_⟩
    rw [World.result?, World.result?, World.text?, World.text?, hran.input_eq rfl hfiles, hu.input]
  | file path =>
    rw [hsource] at hreadable hquiet
    obtain ⟨result, hresult⟩ := Option.isSome_iff_exists.mp hreadable
    obtain ⟨text, htext, -⟩ := Option.bind_eq_some_iff.mp hresult
    obtain ⟨hcheck, q, content, hl, hq, rfl⟩ := World.text?_file_eq_some_iff.mp htext
    obtain ⟨tried, hfollows, -⟩ := hran.exists_follows
    have hfollows := hu.follows.trans hfollows
    have hne : ∀ o ∈ os, ∀ t ∈ o.target, Path.ofText t.text = t ∧ w.disk.placeOf t ≠ q := by
      intro o ho t ht
      obtain ⟨htarget, hfree⟩ := h.target_free hu hchecked hpairs hran ho ht
      refine ⟨htarget, fun hplace => ?_⟩
      rw [hplace, hq] at hfree
      cases hfree
    have hoverlay := (Outcome.overlay_allFiles (s := s) (x := w.disk.find? q) hne).trans hq
    refine ⟨hfollows.quietFor hl (hquiet q hl), ?_⟩
    rw [World.result?, World.result?, htext, hfollows.text?_file hcheck hl (hquiet q hl) hoverlay]

/-- The targets of the sources are planned, and those of different sources are beside each other. -/
theorem apart (h : Isolated s w sources targets) : Apart (sources.zip targets) := by
  obtain ⟨found, hfound, hplanned⟩ := planned_of_plan h.plan
  have hapart := hplanned.apart (hplanned.nodup_iff.mp h.distinct)
  rw [← List.map_snd_zip h.length_eq.le, List.pairwise_map] at hapart
  exact hapart

/-- Only a target that cannot be looked at keeps the batch from its first source. -/
theorem barred_of_unprepared (h : Isolated s w sources targets) {e : Stop}
    (he : Unprepared s w.home w.Idles e) : ∃ t, some t ∈ targets ∧ Barred w.disk t.text e := by
  cases he with
  | unplanned hf => exact absurd (h.plan.symm.trans hf) nofun
  | @unchecked found t u e hfound ht hu hunchecked =>
    obtain rfl : targets = found := Except.ok.inj (h.plan.symm.trans hfound)
    exact ⟨t, ht, (hunchecked.reason_start hu).resolve_left fun hshows =>
      h.absent _ ht t rfl hshows.2⟩

/-- **No target is found taken.** -/
theorem triple_batch_free (h : Isolated s w sources targets) :
    Triple (fun v => v = w) (batch s)
      (fun ending _ => ∀ e, ending.status = .error e → ¬ e.IsTaken) fun _ _ => False := by
  refine triple_batch (Q := fun pairs u => pairs = sources.zip targets ∧ w.Idles u ∧
      ∀ target ∈ targets, ∀ t ∈ target, Checked s u.disk t)
    (R := fun r _ => ∀ e, r.2 = .error e → ¬ e.IsTaken) ?_ (fun pairs => ?_) ?_ fun os => ?_
  · refine (triple_prepareBatch ((recorded_becomes [] [] w.input w.output w).and
      (recorded_home w.home)) (fun _ h => h.2) s).mono ?_ ?_ ?_
    · rintro _ rfl
      exact ⟨⟨.refl _, rfl, rfl⟩, rfl⟩
    · rintro pairs u ⟨⟨hu, -⟩, sources', targets', hsources, hplan, rfl, hchecked⟩
      obtain rfl : sources = sources' := Except.ok.inj (h.sources_eq.symm.trans hsources)
      obtain rfl : targets = targets' := Except.ok.inj (h.plan.symm.trans hplan)
      exact ⟨rfl, hu, hchecked⟩
    · rintro e v ⟨-, hunprepared⟩ _ ⟨⟩
      obtain ⟨t, -, hbarred⟩ := h.barred_of_unprepared (hunprepared.mono fun _ h => h.1)
      exact hbarred.isFailure.not_isTaken
  · rintro u ⟨rfl, hu, hchecked⟩
    have hmem : ∀ pair ∈ sources.zip targets, ∀ t ∈ pair.2, some t ∈ targets := by
      intro pair hpair t ht
      rw [← Option.mem_def.mp ht]
      exact (List.of_mem_zip hpair).2
    refine (triple_convertAll_free h.sound.isTree s h.apart fun pair hpair t ht =>
      ?_).mono_before ?_ u rfl
    · have ht := hmem pair hpair t ht
      exact ⟨wellFormed_of_plan h.plan _ ht t rfl, h.level _ ht t rfl⟩
    · rintro _ rfl pair hpair t ht hcheck
      have hfree := h.find?_placeOf hu hchecked (hmem pair hpair t ht) hcheck
      exact ⟨hu.follows.grows, (hu.follows.alike.nothing _).mpr hfree, fun h => absurd rfl h⟩
  · rintro os e w h _ ⟨⟩
    exact h e rfl
  · refine Triple.mono (keeps_concludeBatch (S := fun e => ¬ e.IsTaken) settled_true
      Stop.not_isTaken_failure s os) (fun _ _ => trivial) (fun _ _ _ => nofun) ?_
    rintro e w ⟨he, -⟩ _ ⟨⟩
    exact he

end Isolated

/-! ## Accounts -/

theorem Written.read {t : Path} {script : Text} (h : Written s t script w) :
    w.disk.read t.text = .ok (s.scriptOctets script) := by
  obtain ⟨header, hheader, hstands⟩ := h
  rw [Settings.scriptOctets, Settings.scriptHeader, hheader]
  exact hstands.read

/-- Sources with the outcomes that each of them has alone. -/
def Answered (w : World) (pairs : List (Source × Option Path)) (os : List Outcome) : Prop :=
  List.Forall₂ (fun pair o => o.source = pair.1 ∧ w.result? pair.1 = some o.result ∧
    o.target = if o.result.isOk then pair.2 else none) pairs os

/-- What can keep an isolated batch from its end: a target cannot be looked at, a script that was
converted is not delivered, or the report is not. -/
inductive Undelivered (s : Settings) (w : World) (sources : List Source)
    (targets : List (Option Path)) : Stop → Prop
  | barred {t : Path} {e : Stop} (mem : some t ∈ targets) (barred : Barred w.disk t.text e) :
    Undelivered s w sources targets e
  | script {earlier later : List (Source × Option Path)} {source : Source} {target : Option Path}
    {os : List Outcome} {result : Result} {tried : List Path} {u v : World} {e : Stop}
    (split : sources.zip targets = earlier ++ (source, target) :: later)
    (before : Answered w earlier os) (result_eq : w.result? source = some result)
    (isOk : result.isOk = true) (follows : w.Follows (Outcome.allFiles s os) tried u)
    (output : u.output = w.output.adding (Outcome.allPrinted s os))
    (deliver_eq : (deliver s target (result.script.getD [])).after u = (.error e, v)) :
    Undelivered s w sources targets e
  | unprinted {os : List Outcome} {report : Text} {f : Failure}
    (answered : Answered w (sources.zip targets) os) (report_eq : s.reportText os = .ok report)
    (write_eq : (w.output.adding (Outcome.allPrinted s os)).write report = .error f) :
    Undelivered s w sources targets (.failure f)
  /-- The report has a number of too many digits. -/
  | unwritten {os : List Outcome} (answered : Answered w (sources.zip targets) os)
    (report_eq : s.reportText os = .error .numeralNotWritten) :
    Undelivered s w sources targets (.failure .numeralNotWritten)

/-- What an isolated batch leaves when it ends with some status. -/
structure Accounted (s : Settings) (w : World) (sources : List Source)
    (targets : List (Option Path)) (os : List Outcome) (status : Nat) (v : World) : Prop where
  answered : Answered w (sources.zip targets) os
  /-- Each script that has a target is in its file. -/
  written : ∀ o ∈ os, ∀ t ∈ o.target,
    v.disk.read t.text = .ok (s.scriptOctets (o.result.script.getD []))
  /-- There is nothing new besides these files and the directories on the way to them. -/
  rest : ∀ q, w.Quiet q → v.disk.find? q = w.disk.find? q ∨ w.disk.find? q = none ∧
    ∃ o ∈ os, ∃ t ∈ o.target, w.disk.placeOf t = q ∨
      v.disk.find? q = some .directory ∧ w.disk.OnWay t.parent q
  /-- The scripts without a target are printed one after the other, and then the report. -/
  printed : ∃ report, s.reportText os = .ok report ∧
    v.output = w.output.adding (Outcome.allPrinted s os ++ report)
  status_eq : status = Outcome.status os

namespace Answered

variable {pairs : List (Source × Option Path)} {os : List Outcome}

theorem exists_of_mem (h : Answered w pairs os) {o : Outcome} (ho : o ∈ os) :
    ∃ pair ∈ pairs, o.source = pair.1 ∧ w.result? pair.1 = some o.result ∧
      o.target = if o.result.isOk then pair.2 else none := by
  induction h with
  | nil => cases ho
  | @cons pair o' pairs os h _ ih =>
    rcases List.mem_cons.mp ho with rfl | ho
    · exact ⟨pair, List.mem_cons_self, h⟩
    · obtain ⟨pair', hpair, h'⟩ := ih ho
      exact ⟨pair', List.mem_cons_of_mem _ hpair, h'⟩

/-- The outcomes are those of the sources, in their order. -/
theorem map_eq (h : Answered w pairs os) : os.map (fun o => (o.source, some o.result)) =
    (pairs.map Prod.fst).map fun source => (source, w.result? source) := by
  induction h with
  | nil => rfl
  | cons h _ ih => rw [List.map_cons, ih, h.1, ← h.2.1]; rfl

/-- Only a long number keeps the report of these outcomes from being made. -/
theorem spelled_reportText (h : Answered w pairs os) (s : Settings) :
    Json.Spelled (s.reportText os) := by
  refine s.spelled_reportText (fun o ho => ?_) fun o ho hfailed => ?_
  · obtain ⟨pair, -, hsource, hresult, -⟩ := h.exists_of_mem ho
    obtain ⟨text, htext, -⟩ := Option.bind_eq_some_iff.mp hresult
    exact hsource ▸ World.exists_toValue_of_text? htext
  · obtain ⟨pair, -, -, -, htarget⟩ := h.exists_of_mem ho
    rw [htarget, if_neg (by rw [hfailed]; exact nofun)]

end Answered

namespace Isolated

theorem answered (h : Isolated s w sources targets) (hu : w.Idles u)
    (hchecked : ∀ target ∈ targets, ∀ t ∈ target, Checked s u.disk t)
    {earlier later : List (Source × Option Path)} (hpairs : sources.zip targets = earlier ++ later)
    {os : List Outcome} (hran : Ran s u earlier os (.ok ()) v) : Answered w earlier os := by
  refine hran.forall₂ fun before pair after pre o u' u'' hearlier hbefore hconverted => ?_
  obtain ⟨hquiet, hresult⟩ := h.result?_eq hu hchecked
    (by rw [hpairs, hearlier, List.append_assoc]; rfl) hbefore
  exact ⟨hconverted.source_eq, hresult ▸ hconverted.result hquiet, hconverted.target_eq⟩

/-- Only a target that cannot be looked at, a script or the report keeps the batch from its end. -/
theorem undelivered (h : Isolated s w sources targets) {ending : BatchEnding} {e : Stop}
    (hhistory : History s w ending v) (he : ending.status = .error e) :
    Undelivered s w sources targets e := by
  cases hhistory with
  | unprepared idles unprepared =>
    obtain rfl := Except.error.inj he
    obtain ⟨t, ht, hbarred⟩ := h.barred_of_unprepared unprepared
    exact .barred ht hbarred
  | @stopped u v sources' targets' os e' sources_eq plan idles checked ran =>
    obtain rfl := Except.error.inj he
    obtain rfl : sources = sources' := Except.ok.inj (h.sources_eq.symm.trans sources_eq)
    obtain rfl : targets = targets' := Except.ok.inj (h.plan.symm.trans plan)
    obtain ⟨earlier, ⟨source, target⟩, later, v', hsplit, hbefore, hhalted⟩ := ran.exists_halted
    obtain ⟨hquiet, hresult⟩ := h.result?_eq idles checked hsplit hbefore
    have hmem : source ∈ sources :=
      (List.of_mem_zip (hsplit ▸ List.mem_append_right _ List.mem_cons_self)).1
    obtain ⟨result, hsource⟩ := Option.isSome_iff_exists.mp (h.readable source hmem)
    obtain ⟨hok, u', v'', hu', hdeliver⟩ := hhalted.cause hquiet result (hresult.trans hsource)
    obtain ⟨tried, hfollows, -⟩ := hbefore.exists_follows
    have hfiles := (idles.follows.trans hfollows).trans hu'.follows
    simp only [List.nil_append, List.append_nil] at hfiles
    refine .script hsplit (h.answered idles checked hsplit hbefore) hsource hok hfiles ?_ hdeliver
    rw [hu'.output, hbefore.output_eq, idles.output]
  | @concluded u u' v sources' targets' os status sources_eq plan idles checked ran concluded =>
    obtain rfl : sources = sources' := Except.ok.inj (h.sources_eq.symm.trans sources_eq)
    obtain rfl : targets = targets' := Except.ok.inj (h.plan.symm.trans plan)
    have hanswered := h.answered idles checked (List.append_nil _).symm ran
    have houtput : u'.output = w.output.adding (Outcome.allPrinted s os) := by
      rw [ran.output_eq, idles.output]
    cases concluded with
    | told => cases he
    | @untold v f _ cause =>
      obtain rfl := Except.error.inj he
      rw [houtput] at cause
      cases hreport : s.reportText os with
      | ok report =>
        rw [hreport] at cause
        exact .unprinted hanswered hreport cause
      | error f' =>
        rw [hreport] at cause
        obtain rfl := Except.error.inj cause
        obtain rfl := hanswered.spelled_reportText s f' hreport
        exact .unwritten hanswered hreport

/-- **What an isolated batch leaves.** -/
theorem accounted (h : Isolated s w sources targets) {ending : BatchEnding} {n : Nat}
    (hhistory : History s w ending v) (hn : ending.status = .ok n)
    (hwritten : ∀ o ∈ ending.outcomes, ∀ t ∈ o.target, Written s t (o.result.script.getD []) v) :
    Accounted s w sources targets ending.outcomes n v := by
  cases hhistory with
  | unprepared => cases hn
  | stopped => cases hn
  | @concluded u u' v sources' targets' os status sources_eq plan idles checked ran concluded =>
    obtain rfl : sources = sources' := Except.ok.inj (h.sources_eq.symm.trans sources_eq)
    obtain rfl : targets = targets' := Except.ok.inj (h.plan.symm.trans plan)
    have hanswered := h.answered idles checked (List.append_nil _).symm ran
    cases concluded with
    | untold => cases hn
    | @told v report report_eq becomes =>
      refine ⟨hanswered, fun o ho t ht => ?_, fun q hq => ?_, ⟨report, report_eq, ?_⟩, ?_⟩
      · exact (hwritten o ho t ht).read
      · obtain ⟨tried, hfollows, -, htried⟩ := ran.exists_follows
        have hfiles := (idles.follows.trans hfollows).trans becomes.follows
        simp only [List.nil_append, List.append_nil, htried rfl] at hfiles
        rcases hfiles.find? q hq with he | ⟨hnone, hdirectory, t, ht, hway⟩
        · rcases w.disk.overlay_cases q (w.disk.find? q) (Outcome.allFiles s os) with hsame | hfile
          · exact .inl (he.trans hsame)
          · obtain ⟨file, hmem, hplace, -⟩ := hfile
            obtain ⟨o, ho, t, ht, rfl⟩ := Outcome.mem_allFiles.mp hmem
            obtain ⟨htext, hfree⟩ := h.target_free idles checked (List.append_nil _).symm ran ho ht
            rw [htext] at hplace
            exact .inr ⟨hplace ▸ hfree, o, ho, t, ht, .inl hplace⟩
        · obtain ⟨o, ho, ht⟩ := List.mem_flatMap.mp ht
          have hq : w.disk.find? q = none := by_contra fun hne => Disk.overlay_ne_none hne hnone
          exact .inr ⟨hq, o, ho, t, Option.mem_toList.mp ht, .inr ⟨hdirectory, hway⟩⟩
      · rw [becomes.output, ran.output_eq, idles.output, Stream.adding_adding]
      · exact (Except.ok.inj hn).symm

/-- **Another order of the sources** changes neither their results nor the status. -/
theorem perm (h : Isolated s w sources targets) {s' : Settings} {sources' : List Source}
    {targets' : List (Option Path)} (h' : Isolated s' w sources' targets')
    (hperm : sources'.Perm sources) {os os' : List Outcome} {n n' : Nat}
    (hos : Accounted s w sources targets os n v)
    (hos' : Accounted s' w sources' targets' os' n' u) :
    (os'.map fun o => (o.source, o.result)).Perm (os.map fun o => (o.source, o.result)) ∧
      n' = n := by
  have hmap := hos.answered.map_eq
  have hmap' := hos'.answered.map_eq
  rw [List.map_fst_zip h.length_eq.ge] at hmap
  rw [List.map_fst_zip h'.length_eq.ge] at hmap'
  have hsome : (os'.map fun o => (o.source, some o.result)).Perm
      (os.map fun o => (o.source, some o.result)) := by
    rw [hmap, hmap']
    exact hperm.map _
  have hresults : (os'.map fun o => (o.source, o.result)).Perm
      (os.map fun o => (o.source, o.result)) := by
    have hinjective : (Prod.map id some : Source × Result → Source × Option Result).Injective :=
      Function.injective_id.prodMap (Option.some_injective _)
    refine (List.map_perm_map_iff hinjective).mp ?_
    rw [List.map_map, List.map_map]
    exact hsome
  refine ⟨hresults, ?_⟩
  rw [hos.status_eq, hos'.status_eq, Outcome.status, Outcome.status]
  have hall := hresults.all_eq (f := fun p => p.2.isOk)
  rw [List.all_map, List.all_map] at hall
  exact congrArg (fun b : Bool => if b then 0 else 2) hall

end Isolated

/-- **An isolated batch accounts for each of its inputs.**

It always returns. No target is found taken, and only a target that cannot be looked at, a script
that cannot be delivered or such a report ends it early. Otherwise each input has the outcome that
it has alone, in the order of the inputs; just the scripts of those that did not fail are in their
files, or on the output with the report after them; the status, which the report tells, is zero if
none failed. Another order of the inputs changes neither their results nor the status. -/
theorem batch_isolated (h : Isolated s w sources targets) :
    ∃ ending v, (batch s).after w = (.ok ending, v) ∧
      (∀ e, ending.status = .error e → ¬ e.IsTaken ∧ Undelivered s w sources targets e) ∧
      ∀ n, ending.status = .ok n →
        Accounted s w sources targets ending.outcomes n v ∧
        (∃ inputs, Outcome.report ending.outcomes =
          .object [("ok", .bool (decide (n = 0))), ("inputs", inputs)]) ∧
        ∀ s' sources' targets' ending' v' n', Isolated s' w sources' targets' →
          sources'.Perm sources → (batch s').after w = (.ok ending', v') →
          ending'.status = .ok n' →
            (ending'.outcomes.map fun o => (o.source, o.result)).Perm
              (ending.outcomes.map fun o => (o.source, o.result)) ∧ n' = n := by
  have haccounted : ∀ {s : Settings} {sources : List Source} {targets : List (Option Path)}
      {ending : BatchEnding} {v : World} {n : Nat}, Isolated s w sources targets →
      (batch s).after w = (.ok ending, v) → ending.status = .ok n →
      Accounted s w sources targets ending.outcomes n v := fun h hending hn =>
    h.accounted ((triple_batch_history _ w).ok rfl hending) hn
      ((triple_batch_written h.sharesFile).ok trivial hending)
  obtain ⟨ending, v, hending, hhistory⟩ := (triple_batch_history s w).exists_answer rfl
  refine ⟨ending, v, hending, fun e he => ?_, fun n hn => ?_⟩
  · exact ⟨h.triple_batch_free.ok rfl hending e he, h.undelivered hhistory he⟩
  · have hos := haccounted h hending hn
    refine ⟨hos, hos.status_eq ▸ Outcome.exists_report_eq _, ?_⟩
    intro s' sources' targets' ending' v' n' h' hperm hending' hn'
    exact h.perm h' hperm hos (haccounted h' hending' hn')

theorem batch_isolated_directory :
    Isolated (both "output_dir" "out") tray [.file "a.reg", .file "b.reg"]
        [some (.ofText "out/a.ps1"), some (.ofText "out/b.ps1")] ∧
      ∃ ending v, (batch (both "output_dir" "out")).after tray = (.ok ending, v) ∧
        ending.status = .ok 0 ∧
        Accounted (both "output_dir" "out") tray [.file "a.reg", .file "b.reg"]
          [some (.ofText "out/a.ps1"), some (.ofText "out/b.ps1")] ending.outcomes 0 v := by
  have hdots : ∀ target ∈ [some (Path.ofText "out/a.ps1"), some (.ofText "out/b.ps1")],
      ∀ t ∈ target, [dot, dot] ∉ t.names ∧ tray.disk.stat t.text = .error .noEntry := by decide
  have hisolated : Isolated (both "output_dir" "out") tray [.file "a.reg", .file "b.reg"]
      [some (.ofText "out/a.ps1"), some (.ofText "out/b.ps1")] := by
    refine ⟨by decide, rfl, rfl, by decide, by decide, ?_, ?_, ?_, isSound_tray, ?_⟩
    · rintro target htarget t ht ⟨-, n, hn⟩
      rw [(hdots target htarget t ht).2] at hn
      cases hn
    · decide +kernel
    · intro source _
      cases source with
      | file path => exact fun q _ _ hs => absurd hs List.not_mem_nil
      | standardInput => trivial
      | unfit u => trivial
    · exact fun target htarget t ht hc => absurd hc (Disk.not_climbs (hdots target htarget t ht).1)
  have htold : told (both "output_dir" "out") =
      some ([some (.ofText "out/a.ps1"), some (.ofText "out/b.ps1")], .ok 0) := by decide +kernel
  obtain ⟨ending, v, hending, -, hok⟩ := batch_isolated hisolated
  rw [told, hending] at htold
  have hstatus : ending.status.mapError stopText = .ok 0 :=
    congrArg Prod.snd (Option.some.inj htold)
  have hzero : ending.status = .ok 0 := by
    cases hs : ending.status with
    | ok n => rw [hs] at hstatus; exact congrArg Except.ok (Except.ok.inj hstatus)
    | error e => rw [hs] at hstatus; cases hstatus
  exact ⟨hisolated, ending, v, hending, hzero, (hok 0 hzero).1⟩

/-- The first of the exports, to which the log adds. -/
def noisy : World :=
  { tray with
    log := ⟨Level.info, [⟨.file ["a.reg"] true, Level.info, .plain ⟨false, true, true⟩⟩]⟩ }

/-- A script that is an input, and another input that comes before it. -/
def misled : World :=
  { tray with disk := {
      here := []
      nodes := [
        (["b.reg"], .file (Utf8.encode "[HKEY_USERS\\B]\ny=2")),
        (["y"], .directory),
        (["y", "b.ps1"], .file (Utf8.encode "[HKEY_USERS\\C]\nz=3"))] } }

/-- Whether each outcome of a batch is what its source would have come to when the batch began. -/
def kept (s : Settings) (w : World) : Option (List Bool) :=
  ((batch s).after w).1.toOption.map fun ending => ending.outcomes.map fun o =>
    decide ((w.result? o.source).map Result.script = some o.result.script)

/-- An input to which the log adds is not converted as it was, and neither is one that a script is
written over whose path shows nothing before its directory is made. -/
theorem batch_not_isolated :
    (noisy.result? (.file "a.reg")).map Result.isOk = some true ∧
      Settings.plan [("inputs", .texts ["a.reg"])] noisy.home = .ok [none] ∧
      kept [("inputs", .texts ["a.reg"])] noisy = some [false] ∧
      (misled.result? (.file "y/b.ps1")).map Result.isOk = some true ∧
      Settings.plan [("inputs", .texts ["b.reg", "y/b.ps1"]), ("output_dir", .text "x/../y")]
        misled.home = .ok [some (.ofText "x/../y/b.ps1"), some (.ofText "x/../y/b-2.ps1")] ∧
      (∀ t ∈ [Path.ofText "x/../y/b.ps1", .ofText "x/../y/b-2.ps1"],
        misled.disk.stat t.text = .error .noEntry) ∧
      kept [("inputs", .texts ["b.reg", "y/b.ps1"]), ("output_dir", .text "x/../y")] misled =
        some [true, false] := by
  refine ⟨?_, rfl, ?_, ?_, rfl, ?_, ?_⟩
  · decide +kernel
  · decide +kernel
  · decide +kernel
  · decide
  · decide +kernel

end HiveScript.Run
