import HiveScript.Proofs.Program.Containment

/-!
# Plain runs

The run of a command line that names one input, and that says nothing of configurations, of the log
and of a report. It converts the input and ends with the status of that. All else that it does is to
make records, which go to the stream for messages only.

* `World.Murmurs`: a world in which only records were made.
* `Plain`, `Settings.Single`: such command lines and their settings.
* `World.Provides`, `World.Offers`: a file that can be named as the input.
* `World.Left`: what a conversion leaves, which a fault leaves as it was.
* `Run.triple_batch_single`: a batch of one input does what the delivery of its script does.
* **`Run.triple_program_plain`**: so does a whole run.
-/

namespace HiveScript

/-- A world in which only records were made. No sink of the log goes to a file. -/
structure World.Murmurs (w v : World) : Prop where
  disk : v.disk = w.disk
  home : v.home = w.home
  output : v.output = w.output
  console : ∀ s ∈ v.log.sinks, ∃ channel, s.target = .console channel

/-- A command line that says nothing of configurations and of the log, and the settings that it
comes to. -/
structure Plain (arguments : List Text) (s : Settings) : Prop where
  early : Catalogue.early.finish (.defaults Catalogue.early.switches) arguments =
    .ok (.settings (.defaults Catalogue.early.switches))
  full : Catalogue.full.finish Catalogue.defaults arguments = .ok (.settings s)

/-- Settings with one input, without a directory, a header of their own and a report. -/
structure Settings.Single (s : Settings) (name : Text) : Prop where
  inputs : s.put "inputs" (.texts [name]) = s
  directory : s.get "output_dir" = .null
  header : s.get "header" = .null
  reports : s.reports = false
  verbose : s.get "verbose" = .int 0

/-- There is a file with some octets under a name that is no option. -/
structure World.Provides (w : World) (name : Text) (content : Bytes) : Prop where
  word : name.head? ≠ some (Point.ofChar '-')
  check : checkPath name = .ok ()
  stat : w.disk.stat name = .ok (.file content)

/-- A file with some octets can be named as an input. -/
structure World.Offers (w : World) (name : Text) (content : Bytes) : Prop where
  /-- The name is no option, and not that of the standard input. -/
  word : name.head? ≠ some (Point.ofChar '-')
  path : (Path.ofText name).text = name
  check : checkPath name = .ok ()
  read : w.disk.read name = .ok content

theorem Source.ne_hyphenName {name : Text} (h : name.head? ≠ some (Point.ofChar '-')) :
    name ≠ hyphenName := by
  rintro rfl
  exact h rfl

namespace World

variable {w v : World} {name : Text} {content : Bytes}

/-- The file is found as well under the name that is read and written again. -/
theorem Provides.read (h : w.Provides name content) :
    w.disk.read (Path.ofText name).text = .ok content := by
  obtain ⟨q, hl, hq⟩ := Disk.stat_eq_ok h.stat
  exact Disk.read_eq_ok_iff.mpr ⟨q, Disk.locate_text_ofText hl, hq⟩

theorem Offers.provides (h : w.Offers name content) : w.Provides name content := by
  obtain ⟨q, hl, hq⟩ := Disk.read_eq_ok_iff.mp h.read
  exact ⟨h.word, h.check, Disk.stat_of_locate_eq_ok hl hq⟩

/-- What a conversion with a result leaves: what the delivery of its script does, if there is one,
and nothing new otherwise. -/
def Left (w : World) (result : Result) (D : World → Prop) (v : World) : Prop :=
  match result.isOk with
  | true => D v
  | false => w.Murmurs v

end World

/-- The status that a single result leads to. -/
def Result.status (result : Result) : Nat :=
  match result.isOk with
  | true => 0
  | false => 2

namespace Settings.Single

variable {s : Settings} {name : Text}

theorem namedInputs (h : s.Single name) : s.namedInputs = .ok [name] := by
  have hget : s.get "inputs" = .texts [name] := by
    rw [← h.inputs, get_put_self]
  simp only [Settings.namedInputs, hget]
  rfl

theorem sources (h : s.Single name) (hname : name.head? ≠ some (Point.ofChar '-')) :
    s.sources = .ok [.file name] := by
  rw [← h.inputs, sources_put_inputs s (List.cons_ne_nil name []), List.map_singleton,
    Source.ofText, if_neg (Source.ne_hyphenName hname)]

end Settings.Single

namespace Run

variable {w : World}

theorem recorded_murmurs (w : World) : Recorded fun v => w.Murmurs v := by
  refine ⟨fun r _ h => World.emit_induction (P := fun v => w.Murmurs v)
    (fun _ _ _ _ _ h => ⟨h.disk, h.home, h.output, h.console⟩) ?_ r h⟩
  rintro v place more ⟨s, hs, hplace⟩ h
  obtain ⟨channel, hchannel⟩ := h.console s hs
  exact absurd (hchannel.symm.trans hplace) nofun

theorem recorded_left {D : World → Prop} (hD : Recorded D) (w : World) (result : Result) :
    Recorded (w.Left result D) := by
  cases h : result.isOk with
  | true => exact ⟨fun r v hv => by simp only [World.Left, h] at hv ⊢; exact hD.emit r v hv⟩
  | false =>
    exact ⟨fun r v hv => by
      simp only [World.Left, h] at hv ⊢
      exact (recorded_murmurs w).emit r v hv⟩

/-! ## Preparation -/

theorem triple_setUpLog_murmurs {s : LogSettings} (hfile : s.file.isTrue = false)
    {E : Stop → World → Prop} :
    Triple (fun v => v = w) (setUpLog s) (fun _ v => w.Murmurs v) E := by
  have hrecords : ∀ level source message level' source' message',
      Keeps (fun v => w.Murmurs v) (fun _ => False)
        (do log level source message []; note level' source' message') :=
    fun _ _ _ _ _ _ => (keeps_log (recorded_murmurs w) _ _ _ _).bind fun _ =>
      keeps_log (recorded_murmurs w) _ _ _ _
  rw [setUpLog, hfile]
  refine Triple.get.bind fun v => Triple.bind (Q := fun _ v => w.Murmurs v)
    (Triple.modify ?_) fun _ => Triple.mono_stop (Keeps.get.bind fun _ => hrecords _ _ _ _ _ _)
      fun _ _ h => h.1.elim
  rintro _ ⟨rfl, rfl⟩
  refine ⟨rfl, rfl, rfl, fun s hs => ?_⟩
  obtain rfl := List.mem_singleton.mp hs
  exact ⟨s.channel, rfl⟩

theorem readCommandLine_of_finish {synopsis : Synopsis} {s s' : Settings} {arguments : List Text}
    (h : synopsis.finish s arguments = .ok (.settings s')) :
    readCommandLine synopsis s arguments = pure s' := by
  rw [readCommandLine, h]
  rfl

/-- The preparation of a plain run. -/
theorem prepare_of_plain {arguments : List Text} {s : Settings} (h : Plain arguments s) :
    prepare false arguments = do
      setUpLog ⟨0, 0, .null, false, .messages⟩
      return ⟨← checkSettings s, []⟩ := by
  have hlogs : ofExcept (Settings.defaults Catalogue.early.switches).logSettings =
      pure ⟨0, 0, .null, false, .messages⟩ := rfl
  have hitems : ofExcept ((Settings.defaults Catalogue.early.switches).get "config").items =
      pure [] := rfl
  have hconfig : (Settings.defaults Catalogue.early.switches).has "dump_config" = false := rfl
  have hargs : (Settings.defaults Catalogue.early.switches).has "dump_args" = false := rfl
  have hmerged : mergedConfiguration [] = pure [] := rfl
  have happlied : applyConfiguration Catalogue.defaults [] = pure Catalogue.defaults := rfl
  have hsilent : Entries.concernsLog [] = false := rfl
  simp only [prepare, settle, readCommandLine_of_finish h.early, readCommandLine_of_finish h.full,
    hlogs, hitems, hconfig, hargs, hmerged, happlied, hsilent, pure_bind, Bool.not_false,
    Bool.and_false, Bool.false_eq_true, if_true, if_false]

theorem triple_nodeAt_provided {name : Text} {content : Bytes} (hw : w.Provides name content)
    {E : Stop → World → Prop} :
    Triple (fun v => w.Murmurs v) (nodeAt name)
      (fun n v => n = some (.file content) ∧ w.Murmurs v) E := by
  rw [nodeAt, hw.check]
  refine Triple.get.bind fun v => Triple.pure ?_
  rintro _ ⟨rfl, hv⟩
  rw [hv.disk, hw.stat]
  exact ⟨rfl, hv⟩

/-- The settings of a plain run pass all checks. -/
theorem triple_checkSettings_single {s : Settings} {name : Text} {content : Bytes}
    (hs : s.Single name) (hw : w.Provides name content) {E : Stop → World → Prop} :
    Triple (fun v => w.Murmurs v) (checkSettings s) (fun checked v => checked = s ∧ w.Murmurs v)
      E := by
  have hnull : Value.null.isPresent = false := rfl
  have hone : decide (1 < [name].length) = false := rfl
  have houtput : checkOutput s [name] = pure () := by
    simp only [checkOutput, hs.directory, hnull, hone, Bool.and_false, Bool.false_and,
      Bool.false_eq_true, if_false]
  have hheader : checkHeader s = pure () := by
    simp only [checkHeader, hs.header, hnull, Bool.false_eq_true, if_false]
  have hinput : Triple (fun v => w.Murmurs v) (checkInput name) (fun _ v => w.Murmurs v) E := by
    rw [checkInput, if_pos (Source.ne_hyphenName hw.word)]
    refine (triple_nodeAt_provided hw).bind fun n => ?_
    rintro v ⟨rfl, hv⟩
    exact hv
  have hinputs : Triple (fun v => w.Murmurs v) (checkInputs [name]) (fun _ v => w.Murmurs v) E := by
    have hcount : ¬ 1 < [name].count Source.hyphenName := Nat.not_lt.mpr List.count_le_length
    rw [checkInputs, if_neg hcount]
    exact hinput.bind fun _ => Triple.pure fun _ h => h
  rw [checkSettings, hs.namedInputs]
  refine Triple.bind (Q := fun inputs v => inputs = [name] ∧ w.Murmurs v)
    (Triple.pure fun _ h => ⟨rfl, h⟩) fun inputs => ?_
  rintro v ⟨rfl, hv⟩
  rw [houtput, hheader]
  refine (hinputs.bind fun _ => Triple.pure fun _ hv => ⟨hs.inputs, hv⟩) v hv

/-! ## The batch -/

/-- Reading the input yields its text. -/
theorem triple_readExport_provided {name : Text} {content : Bytes} (hw : w.Provides name content)
    {P : World → Prop} (hP : ∀ v, P v → v.disk = w.disk) {E : Stop → World → Prop} :
    Triple P (readExport (.ofText name)) (fun text v => text = decodeExport content ∧ P v) E := by
  rw [readExport]
  refine Triple.bind (Q := fun found v => found = content ∧ P v) ?_ fun found =>
    Triple.pure fun v hv => ⟨by rw [hv.1], hv.2⟩
  intro v hv
  have hread : v.disk.read (Path.ofText name).text = .ok content := hP v hv ▸ hw.read
  refine ((triple_readFile _ v).mono (fun _ h => h) ?_ ?_) v rfl
  · rintro found _ ⟨⟨-, hfound⟩, rfl⟩
    exact ⟨Except.ok.inj (hfound.symm.trans hread), hv⟩
  · rintro _ _ ⟨hnone, -⟩
    exact absurd hread (hnone content (checkPath_text_ofText hw.check))

theorem triple_readSource_provided {name : Text} {content : Bytes} (hw : w.Provides name content)
    {E : Stop → World → Prop} :
    Triple (fun v => w.Murmurs v) (readSource (.file name))
      (fun text v => text = decodeExport content ∧ w.Murmurs v) E :=
  triple_dieOnRefusal (triple_readExport_provided (E := fun _ _ => False) hw fun _ hv => hv.disk)
    (fun _ => ⟨fun _ _ h => h⟩) (fun _ _ h => h.elim) fun _ _ h => h.elim

section

variable {s : Settings} {name : Text} {content : Bytes} {result : Result} {target : Option Path}
  {D : World → Prop} {F : Stop → World → Prop} (hs : s.Single name) (hw : w.Provides name content)
  (hresult : tryConvert (decodeExport content) = .ok result)
  (hD : Recorded D) (hF : ∀ e, Recorded (F e))
  (hdeliver : result.isOk = true → Triple (fun v => w.Murmurs v)
    (deliver s target (result.script.getD [])) (fun _ => D) F)

include hw hresult hD hF hdeliver

/-- The input is converted, and its script delivered if there is one. -/
theorem triple_convertSource_provided :
    Triple (fun v => w.Murmurs v) (convertSource s (.file name) target)
      (fun o v => o.result = result ∧ w.Left result D v) F := by
  refine triple_convertSource (R := fun text v => text = decodeExport content ∧ w.Murmurs v)
    (recorded_murmurs w) (fun text => ⟨fun r v h => ⟨h.1, (recorded_murmurs w).emit r v h.2⟩⟩)
    (fun o => ⟨fun r v h => ⟨h.1, (recorded_left hD w result).emit r v h.2⟩⟩) hF
    (fun h => by cases h) (triple_readSource_provided hw) ?_ ?_ ?_ ?_
  · rintro text f hf v ⟨rfl, -⟩
    cases hf.symm.trans hresult
  · rintro text found f hfound hfault hmessage v ⟨rfl, -⟩
    exact absurd hmessage (userMessage?_ne_none hfound hfault)
  · rintro text found hfound hfailed v ⟨rfl, hv⟩
    obtain rfl := Except.ok.inj (hfound.symm.trans hresult)
    refine ⟨rfl, ?_⟩
    rw [World.Left, hfailed]
    exact hv
  · rintro text found hfound hok v ⟨rfl, hv⟩
    obtain rfl := Except.ok.inj (hfound.symm.trans hresult)
    refine ((hdeliver hok).mono_answer fun _ u hu => ⟨rfl, ?_⟩) v hv
    rw [World.Left, hok]
    exact hu

include hs

/-- **A batch of one input does what the delivery of its script does.** -/
theorem triple_batch_single (hplan : s.plan w.home = .ok [target])
    (hfree : ∀ t ∈ target, w.disk.Lacks t.text) :
    Triple (fun v => w.Murmurs v) (batch s)
      (fun ending v => ending.status = .ok result.status ∧ w.Left result D v ∨
        ∃ e, ending.status = .error e ∧ F e v)
      fun _ _ => False := by
  have hsources := hs.sources hw.word
  have hleft := recorded_left hD w result
  refine triple_batch (Q := fun pairs v => pairs = [(.file name, target)] ∧ w.Murmurs v)
    (R := fun r v => (∃ o : Outcome, r = ([o], .ok ()) ∧ o.result = result ∧ w.Left result D v) ∨
      ∃ e, r = ([], .error e) ∧ F e v) ?_ ?_ ?_ ?_
  · have hprepare := triple_prepareBatch (recorded_murmurs w) (fun _ h => h.home) s
    refine hprepare.mono (fun _ h => h) ?_ ?_
    · rintro pairs v ⟨hv, sources, targets, hfound, htargets, rfl, -⟩
      obtain rfl := Except.ok.inj (hfound.symm.trans hsources)
      obtain rfl := Except.ok.inj (htargets.symm.trans hplan)
      exact ⟨rfl, hv⟩
    · rintro e v ⟨-, hunprepared⟩
      cases hunprepared with
      | unplanned h => cases h.symm.trans hplan
      | @unchecked targets t u _ plan mem hu unchecked =>
        obtain rfl := Except.ok.inj (plan.symm.trans hplan)
        have hlacks : u.disk.Lacks t.text := hu.disk ▸ hfree t (List.mem_singleton.mp mem).symm
        exact absurd hlacks unchecked.not_lacks
  · rintro pairs v ⟨rfl, hv⟩
    have hsource := triple_convertSource_provided hw hresult hD hF hdeliver
    rw [convertAll]
    refine ((triple_attempt hsource).bind fun r => ?_) v hv
    cases r with
    | error e => exact Triple.pure fun _ h => .inr ⟨e, rfl, h⟩
    | ok o => exact Triple.pure fun _ h => .inl ⟨o, rfl, h⟩
  · rintro os e v (⟨o, h, -⟩ | ⟨e', h, hv⟩)
    · cases h
    · obtain rfl := Except.error.inj (Prod.ext_iff.mp h).2
      exact .inr ⟨e, rfl, hv⟩
  · rintro os v (⟨o, h, rfl, hv⟩ | ⟨e', h, -⟩)
    · obtain rfl := (Prod.ext_iff.mp h).1
      obtain ⟨level, t, hconclude⟩ : ∃ level t, concludeBatch s [o] = do
          log level batchRecordSource t []
          return o.result.status := by
        rw [concludeBatch, hs.reports, Outcome.failed, Result.status]
        cases hok : o.result.isOk with
        | true => exact ⟨_, _, by rw [List.filter_cons_of_neg (by simp [hok])]; rfl⟩
        | false => exact ⟨_, _, by rw [List.filter_cons_of_pos (by simp [hok])]; rfl⟩
      rw [hconclude]
      refine (Triple.bind (P := w.Left o.result D) (Q := fun _ => w.Left o.result D)
        (Triple.modify fun u => hleft.emit _ u) fun _ => Triple.pure fun _ h => ?_) v hv
      exact .inl ⟨rfl, h⟩
    · cases h

end

/-! ## The whole run -/

/-- The status of a batch is that of the run, and a failure of it is told. -/
theorem triple_programBatch_of_batch {P D G : World → Prop} {s : Settings} {k : Nat}
    (hG : Recorded G)
    (h : Triple P (batch s)
      (fun ending v => ending.status = .ok k ∧ D v ∨
        ∃ e, ending.status = .error e ∧ (∃ f, e = .failure f) ∧ G v)
      fun _ _ => False) (verbosity : Int) :
    Triple P (programBatch s verbosity) (fun n v => n = k ∧ D v ∨ n = 1 ∧ G v)
      fun _ _ => False := by
  rw [programBatch]
  refine h.bind fun ending => ?_
  rintro v (⟨hstatus, hv⟩ | ⟨_, hstatus, ⟨f, rfl⟩, hv⟩)
  · rw [hstatus]
    exact .inl ⟨rfl, hv⟩
  · rw [hstatus]
    refine (Triple.bind (P := G) (Q := fun _ => G) (Triple.modify fun u => hG.emit _ u) fun _ =>
      Triple.pure fun _ h => ?_) v hv
    exact .inr ⟨rfl, h⟩

/-- **A plain run does what the delivery of its script does**, and ends with the status of the
result, or with 1 if the delivery fails. -/
theorem triple_program_plain {arguments : List Text} {s : Settings} {name : Text}
    {content : Bytes} {result : Result} {target : Option Path} {D G : World → Prop}
    (harguments : Plain arguments s) (hs : s.Single name) (hw : w.Provides name content)
    (hresult : tryConvert (decodeExport content) = .ok result)
    (hplan : s.plan w.home = .ok [target]) (hfree : ∀ t ∈ target, w.disk.Lacks t.text)
    (hD : Recorded D) (hG : Recorded G)
    (hdeliver : result.isOk = true → Triple (fun v => w.Murmurs v)
      (deliver s target (result.script.getD [])) (fun _ => D)
      fun e v => (∃ f, e = .failure f) ∧ G v) :
    Triple (fun v => v = w) (program arguments)
      (fun n v => n = result.status ∧ w.Left result D v ∨ n = 1 ∧ G v) fun _ _ => False := by
  have hprepare : Triple (fun v => v = w) (prepare false arguments)
      (fun p v => p.settings = s ∧ w.Murmurs v) fun _ _ => False := by
    rw [prepare_of_plain harguments]
    refine (triple_setUpLog_murmurs rfl).bind fun _ => (triple_checkSettings_single hs hw).bind
      fun checked => Triple.pure ?_
    exact fun _ h => h
  have hbatch := triple_batch_single hs hw hresult hD
    (fun e => ⟨fun r v h => ⟨h.1, hG.emit r v h.2⟩⟩) hdeliver hplan hfree
  rw [program, programAfter]
  refine ((triple_attempt hprepare).mono_stop fun _ _ h => h.elim).bind fun r => ?_
  cases r with
  | error e => exact fun _ h => h.elim
  | ok p =>
    rintro v ⟨rfl, hv⟩
    have hverbose : (p.settings.get "verbose").isTrue = false := by
      rw [hs.verbose]
      rfl
    dsimp only
    rw [hverbose]
    exact triple_programBatch_of_batch hG hbatch 0 v hv

end Run

end HiveScript
