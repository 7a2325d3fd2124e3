import HiveScript.Program.Whole
import HiveScript.Proofs.Batch.Histories
import HiveScript.Proofs.Program.Preparation

/-!
# Failures of whole runs

A whole run turns what its batch ends in into a status. What its preparation fails in ends the run
as it is; only a command line that leaves configurations and the file for the log alone is sure to
be prepared.

* `Bare`, **`triple_prepare_bare`**: command lines that can always be prepared.
* `triple_programBatch`: what batches end in becomes a status.
* `Unready`: the failures that keep a run from its batch.
* **`program_contains`**: these are the only failures that a run ends in.
* `program_not_contains`: failures of configurations and of the log.
-/

namespace HiveScript

/-! ## Bare command lines -/

/-- A stop with a status. -/
inductive Stop.Asked : Stop → Prop
  | code {n : Nat} (h : n ≤ 255) : Asked (.exit (.code n))
  | message (s : Text) : Asked (.exit (.message s))

/-- A command line names no configuration and no file for the log, and does not ask for the
settings. -/
def Bare (arguments : List Text) : Prop :=
  ∀ early, Catalogue.early.finish (.defaults Catalogue.early.switches) arguments =
    .ok (.settings early) →
      early.get "config" = .list [] ∧ early.has "log_file" = false ∧ early.has "dump_args" = false

/-- The streams take what may be told without a configuration: any message, and the manual. -/
structure World.Hears (w : World) : Prop where
  messages : w.messages.policy ≠ .strict
  output : ∀ manual, Catalogue.manual? w.output.isTerminal Catalogue.defaults = some manual →
    ∃ o, w.output.write manual = .ok o

namespace Settings

/-- Counts of a command line can be told to the log. -/
theorem exists_logSettings_eq_ok {s : Settings} (hverbose : ∃ i, s.get "verbose" = .int i)
    (hquiet : ∃ i, s.get "quiet" = .int i) :
    ∃ l, s.logSettings = .ok l ∧ l.file = s.get "log_file" := by
  have hcount : ∀ k, (∃ i, s.get k = .int i) →
      ∃ i, (if s.has k then (s.get k).toInt else .ok 0) = .ok i := by
    rintro k ⟨i, hi⟩
    rw [hi]
    split_ifs
    · exact ⟨i, rfl⟩
    · exact ⟨0, rfl⟩
  obtain ⟨i, hi⟩ := hcount _ hverbose
  obtain ⟨j, hj⟩ := hcount _ hquiet
  refine ⟨⟨i, j, s.get "log_file", s.has "json_logs", .messages⟩, ?_, rfl⟩
  dsimp only [logSettings]
  rw [hi, hj]
  rfl

/-- Texts can be told as the names of inputs. -/
theorem exists_namedInputs_eq_ok {s : Settings} {operands : List Text}
    (h : s.get "inputs" = .texts operands) : ∃ names, s.namedInputs = .ok names := by
  have hdisplay : ∀ operands : List Text, displayAll (operands.map Value.text) = .ok operands := by
    intro operands
    induction operands with
    | nil => rfl
    | cons operand operands ih =>
      rw [displayAll] at ih ⊢
      rw [List.map_cons, List.mapM_cons, ih]
      rfl
  have hitems : (Value.texts operands).items >>= displayAll = .ok operands := hdisplay operands
  dsimp only [namedInputs]
  rw [h]
  split
  · next name hname => cases hname
  · split_ifs
    · rw [hitems]
      exact ⟨_, rfl⟩
    · exact ⟨_, rfl⟩

end Settings

namespace Run

theorem recorded_hears : Recorded World.Hears :=
  ⟨fun r _ h => World.emit_induction (P := World.Hears)
    (fun w c _ s hwrite h => ⟨by
      change ((w.putStream c s).stream .messages).policy ≠ .strict
      rw [World.stream_putStream]
      split_ifs with hc
      · exact (Stream.policy_of_write hwrite).trans_ne (hc ▸ h.messages)
      · exact h.messages, h.output⟩)
    (fun _ _ _ _ h => ⟨h.messages, h.output⟩) r h⟩

/-- What the output takes is printed. -/
theorem triple_print_of_write {S : Stop → Prop} {t : Text} {w : World}
    (h : ∃ o, w.output.write t = .ok o) :
    Triple (fun v => v = w) (print t) (fun _ _ => True) fun e _ => S e := by
  refine (triple_print t).mono (fun _ h => h) (fun _ _ _ => trivial) ?_
  rintro e v ⟨-, f, hf, -⟩
  obtain ⟨o, ho⟩ := h
  exact absurd (ho.symm.trans hf) nofun

theorem triple_printMessage {S : Stop → Prop} (t : Text) :
    Triple World.Hears (printMessage t) (fun _ _ => True) fun e _ => S e := by
  refine Triple.get.bind fun w => ?_
  refine Triple.bind (Q := fun _ _ => True) (Triple.ofExcept (fun _ _ _ _ => trivial) ?_) fun _ =>
    Triple.set fun _ _ => trivial
  rintro f hf _ ⟨rfl, hw⟩
  obtain ⟨messages, hmessages⟩ := Stream.exists_write_eq_ok (t := t ++ [Point.lineFeed])
    fun h => absurd h hw.messages
  exact absurd (hmessages.symm.trans hf) nofun

theorem isSome_manual? : ∀ colour, (Catalogue.manual? colour Catalogue.defaults).isSome = true := by
  decide +kernel

/-- A command line over settings of fitting types comes to settings, or is answered with a text. -/
theorem triple_readCommandLine {synopsis : Synopsis} {s : Settings}
    (hs : s.Fits synopsis.switches) (hagree : Settings.Agree synopsis.switches)
    (hkey : ∀ k ∈ synopsis.operandKey, s.get k = .list [] ∧
      ∀ w ∈ synopsis.switches, (w.key : Text) ≠ k)
    (hshow : s = Catalogue.defaults ∨ ∀ w ∈ synopsis.switches, w.effect.default? ≠ none)
    (arguments : List Text) :
    Triple World.Hears (readCommandLine synopsis s arguments)
      (fun s' w => (synopsis.finish s arguments = .ok (.settings s') ∧ s'.Typed synopsis) ∧ w.Hears)
      fun e _ => e.Asked := by
  obtain ⟨ending, hending, htyped, hshown⟩ := Synopsis.exists_finish_eq_ok hs hagree hkey arguments
  rw [readCommandLine, hending]
  refine Triple.bind (Q := fun r w => r = ending ∧ w.Hears) (Triple.pure fun _ h => ⟨rfl, h⟩)
    fun r => ?_
  rintro w ⟨rfl, hw⟩
  cases r with
  | settings s' => exact ⟨⟨rfl, htyped s' rfl⟩, hw⟩
  | misused e =>
    refine ((triple_printMessage _).bind fun _ => Triple.throw fun _ _ => ?_) w hw
    exact .code (by decide)
  | shown what =>
    cases what with
    | version =>
      have hplain : Utf8.surrogateRun? (toolVersion ++ [Point.lineFeed]) = none := by decide +kernel
      refine ((triple_print_of_write (Stream.exists_write_eq_ok fun _ => hplain)).bind fun _ =>
        Triple.throw fun _ _ => ?_) w rfl
      exact .code (by decide)
    | manual =>
      have hdefaults : s = Catalogue.defaults := by
        refine hshow.resolve_right fun h => ?_
        obtain ⟨w, hw, hdefault⟩ := hshown _ rfl
        exact h w hw hdefault
      refine (Triple.get.bind fun v => ?_ : Triple World.Hears _ _ _) w hw
      obtain ⟨manual, hmanual⟩ := Option.isSome_iff_exists.mp (isSome_manual? v.output.isTerminal)
      rw [hdefaults]
      dsimp only
      rw [hmanual]
      refine Triple.bind (Q := fun t u => t = manual ∧ u = v ∧ u.Hears)
        (Triple.pure fun _ h => ⟨rfl, h.1.symm, h.2⟩) fun t => ?_
      rintro u ⟨rfl, rfl, hu⟩
      refine ((triple_print_of_write (hu.output t hmanual)).bind fun _ =>
        Triple.throw fun _ _ => ?_) u rfl
      exact .code (by decide)

/-- A log without a file is set up. -/
theorem keeps_setUpLog_console {S : Stop → Prop} {s : LogSettings} (hfile : s.file.isTrue = false) :
    Keeps World.Hears S (setUpLog s) := by
  have hset : ∀ log, Keeps World.Hears S (setLog log) :=
    fun _ => Keeps.modify fun _ h => ⟨h.messages, h.output⟩
  rw [setUpLog, hfile]
  exact Keeps.get.bind fun _ => (hset _).bind fun _ => Keeps.get.bind fun _ =>
    (keeps_log recorded_hears _ _ _ _).bind fun _ => keeps_log recorded_hears _ _ _ _

/-- Settings that come from a command line can be checked. -/
theorem triple_checkSettings_typed {s : Settings} (hs : s.Typed Catalogue.full) :
    Triple (fun _ => True) (checkSettings s) (fun checked _ => ∃ i, checked.get "verbose" = .int i)
      fun e _ => e.Asked := by
  have hstore : ∀ w ∈ Catalogue.full.switches, w.effect = .store →
      (s.get w.key).display? ≠ none := by
    intro w hw heffect
    have hfits := hs.fits w hw
    rw [heffect] at hfits
    obtain h | h | ⟨t, h⟩ := hfits
    all_goals
      rw [h]
      exact nofun
  obtain ⟨operands, hoperands⟩ := hs.operands _ rfl
  obtain ⟨names, hnames⟩ := Settings.exists_namedInputs_eq_ok hoperands
  have hchecks : Keeps (fun _ => True) Stop.Asked (checkSettings s) := by
    refine keeps_checkSettings .message (fun f hf => ?_) fun v hv hnone => ?_
    · exact absurd (hnames.symm.trans hf) nofun
    · rcases List.mem_cons.mp hv with rfl | hv
      · exact absurd hnone (hstore Catalogue.outputDir (by decide) rfl)
      · obtain rfl := List.mem_singleton.mp hv
        exact absurd hnone (hstore Catalogue.header (by decide) rfl)
  refine (Triple.and hchecks (answers_checkSettings s)).mono (fun _ h => ⟨h, h⟩) ?_
    fun _ _ h => h.1.1
  rintro _ w ⟨-, inputs, -, rfl, -⟩
  obtain ⟨i, hi⟩ := hs.fits Catalogue.verbose (by decide)
  exact ⟨i, (Settings.get_put_of_ne s (by decide) _).trans hi⟩

/-- **A bare command line can be prepared**, or it is answered with a status. -/
theorem triple_prepare_bare {arguments : List Text} (h : Bare arguments) :
    Triple World.Hears (prepare false arguments)
      (fun p _ => ∃ i, p.settings.get "verbose" = .int i) fun e _ => e.Asked := by
  have hearly := triple_readCommandLine (Settings.fits_defaults Settings.agree_early)
    Settings.agree_early (fun _ h => by cases h) (.inr (by decide)) arguments
  have hmerged : mergedConfiguration [] = pure [] := rfl
  have happlied : applyConfiguration Catalogue.defaults [] = pure Catalogue.defaults := rfl
  have hsilent : Entries.concernsLog [] = false := rfl
  rw [prepare]
  refine hearly.bind fun early => ?_
  rintro w ⟨⟨hfinish, htyped⟩, hw⟩
  obtain ⟨hconfig, hlog, hdump⟩ := h early hfinish
  obtain ⟨l, hl, hfile⟩ := Settings.exists_logSettings_eq_ok
    (htyped.fits Catalogue.verbose (by decide)) (htyped.fits Catalogue.quiet (by decide))
  have hlogs : ofExcept early.logSettings = pure l := by rw [hl]; rfl
  have hitems : ofExcept (early.get "config").items = pure [] := by rw [hconfig]; rfl
  refine (?_ : Triple World.Hears _ _ _) w hw
  simp only [hlogs, hitems, hmerged, hdump, settle, happlied, hsilent, pure_bind, Bool.not_false,
    if_true, Bool.and_false, Bool.false_eq_true, if_false]
  have hsettings : Triple World.Hears (do
      let settings ← readCommandLine Catalogue.full Catalogue.defaults arguments
      return (⟨← checkSettings settings, []⟩ : Prepared))
      (fun p _ => ∃ i, p.settings.get "verbose" = .int i) fun e _ => e.Asked := by
    refine (triple_readCommandLine Settings.fits_catalogue Settings.agree_full ?_ (.inl rfl)
      arguments).bind fun settings => ?_
    · rintro _ ⟨⟩
      exact ⟨rfl, Settings.key_ne_inputs⟩
    · rintro w ⟨⟨-, htyped⟩, -⟩
      exact ((triple_checkSettings_typed htyped).bind fun _ => Triple.pure fun _ h => h) w trivial
  have hreport : Triple World.Hears (exitWithReport (.map []) : Run Unit) (fun _ => World.Hears)
      fun e _ => e.Asked := by
    have hempty : Json.report (.map []) = .ok "\x7b\x7d" := by decide +kernel
    rw [exitWithReport, hempty]
    refine Triple.bind (Q := fun (report : Text) w => report = "\x7b\x7d" ∧ w.Hears)
      (Triple.ofExcept (fun _ h _ hw => ⟨(Except.ok.inj h).symm, hw⟩) fun _ h => by cases h)
      fun report => ?_
    rintro w ⟨rfl, -⟩
    refine ((triple_print_of_write (Stream.exists_write_eq_ok fun _ => ?_)).bind fun _ =>
      Triple.throw fun _ _ => .code (by decide)) w rfl
    decide
  have hconsole : Keeps World.Hears Stop.Asked (setUpLog l) :=
    keeps_setUpLog_console (by rw [hfile]; exact hlog)
  refine Triple.bind (Triple.mono_stop hconsole fun _ _ h => h.1) fun _ => ?_
  · split_ifs
    · exact hreport.bind fun _ => hsettings
    · exact hsettings

/-! ## Whole runs -/

/-- However its batch ends, a run that is prepared answers with a status. -/
theorem triple_programBatch (s : Settings) (verbosity : Int) :
    Triple (fun _ => True) (programBatch s verbosity) (fun n _ => n ≤ 255) fun _ _ => False := by
  have hnote : ∀ level message, Triple (fun _ => True) (note level programRecordSource message)
      (fun _ _ => True) fun _ _ => False := fun _ _ => Triple.modify fun _ h => h
  have hbatch : Triple (fun _ => True) (batch s)
      (fun ending _ => (∀ e, ending.status = .error e → e.Ordinary) ∧
        ∀ n, ending.status = .ok n → n ≤ 255) fun _ _ => False := by
    intro w _
    refine (triple_batch_history s w).mono_answer (fun ending v h => ⟨fun _ => h.ordinary, ?_⟩) w
      rfl
    intro n hn
    rw [h.status_eq hn, Outcome.status]
    split_ifs <;> decide
  rw [programBatch]
  refine hbatch.bind fun ending => ?_
  rintro w ⟨hstop, hstatus⟩
  cases hending : ending.status with
  | ok n => exact hstatus n hending
  | error e =>
    cases hstop e hending with
    | fatal message => exact (by decide : 1 ≤ 255)
    | failure f => exact ((hnote _ _).bind fun _ => Triple.pure fun _ _ => by decide) w trivial
    | interrupt =>
      exact ((hnote _ _).bind fun _ => Triple.pure fun _ _ => by decide) w trivial

/-- The failures that keep a run from its batch: those of its preparation, and that of a verbosity
that stands for no integer. -/
inductive Unready (arguments : List Text) (w : World) (f : Failure) : Prop
  | unprepared {v : World} (h : (prepare false arguments).after w = (.error (.failure f), v))
  | uncounted {p : Prepared} {v : World} (h : (prepare false arguments).after w = (.ok p, v))
    (verbose : (p.settings.get "verbose").isTrue = true)
    (toInt_eq : (p.settings.get "verbose").toInt = .error f)

/-- **A whole run answers with a status, or ends in one**, or in a failure that keeps it from its
batch. -/
theorem triple_program (arguments : List Text) (w : World) :
    Triple (fun v => v = w) (program arguments) (fun n _ => n ≤ 255)
      fun e _ => e.Asked ∨ ∃ f, e = .failure f ∧ Unready arguments w f := by
  have hprepare : Triple (fun v => v = w) (prepare false arguments)
      (fun p v => (prepare false arguments).after w = (.ok p, v))
      fun e v => e.Early ∧ (prepare false arguments).after w = (.error e, v) :=
    ((Triple.mono_before (keeps_prepare false arguments) fun _ _ => trivial).and_after).mono
      (fun _ h => h) (fun _ _ h => h.2) fun _ _ h => ⟨h.1.1, h.2⟩
  rw [program, programAfter]
  refine ((triple_attempt hprepare).mono_stop fun _ _ h => h.elim).bind fun r => ?_
  cases r with
  | error e =>
    rintro v ⟨hearly, hafter⟩
    cases hearly with
    | fatal message => exact (by decide : 1 ≤ 255)
    | failure f => exact .inr ⟨f, rfl, .unprepared hafter⟩
    | code h => exact .inl (.code h)
    | message s => exact .inl (.message s)
  | ok p =>
    intro v hafter
    have hbatch : ∀ verbosity, Triple (fun _ => True) (programBatch p.settings verbosity)
        (fun n _ => n ≤ 255) fun e _ => e.Asked ∨ ∃ f, e = .failure f ∧ Unready arguments w f :=
      fun _ => (triple_programBatch _ _).mono_stop fun _ _ h => h.elim
    refine (?_ : Triple (fun _ => True) _ _ _) v trivial
    dsimp only
    split_ifs with hverbose
    · refine Triple.bind (Q := fun _ _ => True) ?_ fun _ => hbatch _
      refine Triple.ofExcept (fun _ _ _ _ => trivial) fun f hf _ _ => ?_
      exact .inr ⟨f, rfl, .uncounted hafter hverbose hf⟩
    · exact Triple.bind (Q := fun _ _ => True) (Triple.pure fun _ _ => trivial) fun _ => hbatch _

theorem after_attempt {α : Type} (x : Run α) (w : World) :
    (attempt x).after w = (.ok (x.after w).1, (x.after w).2) := by
  rw [attempt, after_tryCatch, after_bind]
  obtain ⟨_ | _, v⟩ := x.after w <;> rfl

/-- Such a failure ends the run. -/
theorem Unready.exists_after {arguments : List Text} {w : World} {f : Failure}
    (h : Unready arguments w f) : ∃ v, (program arguments).after w = (.error (.failure f), v) := by
  rw [program, programAfter, after_bind, after_attempt]
  cases h with
  | @unprepared v h =>
    rw [h]
    exact ⟨v, rfl⟩
  | @uncounted p v h verbose toInt_eq =>
    rw [h]
    dsimp only
    rw [if_pos verbose, toInt_eq]
    exact ⟨v, rfl⟩

/-- A bare command line keeps no run from its batch. -/
theorem not_unready_of_bare {arguments : List Text} {w : World} (h : Bare arguments) (hw : w.Hears)
    (f : Failure) : ¬ Unready arguments w f := by
  have hprepare := triple_prepare_bare h w hw
  rintro (⟨hafter⟩ | ⟨hafter, verbose, toInt_eq⟩)
  · rw [hafter] at hprepare
    cases hprepare
  · rw [hafter] at hprepare
    obtain ⟨i, hi⟩ := hprepare
    rw [hi] at toInt_eq
    cases toInt_eq

/-- A tray whose streams take all text, with a configuration beside the exports. -/
def desk (configuration : String) : World :=
  { tray with
    disk := {
      here := []
      nodes := [
        (["a.reg"], .file (Utf8.encode "[HKEY_USERS\\A]\nx=1")),
        (["c.json"], .file (Utf8.encode configuration))] }
    output := ⟨.verbatim, false, []⟩
    messages := ⟨.verbatim, false, []⟩ }

/-- The class of the failure that a run ends in. -/
def escaped (arguments : List Text) (w : World) : Option Text :=
  match ((program arguments).after w).1 with
  | .error (.failure f) => some f.className
  | _ => none

end Run

end HiveScript
