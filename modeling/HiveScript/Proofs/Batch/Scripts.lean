import HiveScript.Batch.Run
import HiveScript.Proofs.Batch.Targets
import HiveScript.Proofs.Disk.Trees
import HiveScript.Proofs.Run.Files

/-!
# Scripts of a batch

What converting one source of a batch does: its script is read back from its target, and if nothing
is there before, then nothing there keeps the script from being written.

* `Stop.IsTaken`: the stop because there is something at a target; `Stop.Ordinary`: the stops that a
  batch can end in.
* `Run.Barred`: looking at a path is refused; **`triple_checkTarget`**.
* `Run.Written`, **`triple_convertSource_written`**: the script is where it was to be written.
* `Run.Free`, **`triple_convertSource_free`**: free targets are not found taken.
* `keeps_convertSource`, `keeps_convertAll`: what the writing of scripts leaves, batches leave.
-/

namespace HiveScript

/-! ## Targets at which there is something -/

/-- The stop because there is something at a target. -/
def Stop.taken (target : Path) : Stop :=
  .fault (.fatal ("Output exists (use --force to overwrite): " ++ target.text))

def Stop.IsTaken (e : Stop) : Prop := ∃ target, e = .taken target

/-- A message on one line begins as the message does. -/
theorem Text.head?_oneLine {p : Point} (hp : p.isBlank = false) (s : Text) :
    (Text.oneLine (p :: s)).head? = some p := by
  have hjoin : (Text.join [Point.space] (Text.words (p :: s))).head? = some p := by
    rw [Text.words, Text.fields, if_neg (by simp [hp])]
    cases Text.fields Point.isBlank s with
    | nil => rfl
    | cons w ws =>
      rw [Text.consFirst, List.filter_cons_of_pos (by simp)]
      cases List.filter (fun w => !w.isEmpty) ws <;> rfl
  rw [Text.oneLine, Text.oneLineWithin]
  split_ifs
  · exact hjoin
  · cases h : Text.join [Point.space] (Text.words (p :: s)) with
    | nil =>
      rw [h] at hjoin
      cases hjoin
    | cons a t =>
      rw [h] at hjoin
      exact hjoin

theorem Fault.head?_fatal {p : Point} (hp : p.isBlank = false) (s : Text) :
    (Fault.fatal (p :: s)).message.head? = some p := by
  have hhead := Text.head?_oneLine hp s
  have hne : ¬ (Text.oneLine (p :: s)).isEmpty = true := by
    rw [List.isEmpty_iff]
    intro h
    rw [h] at hhead
    exact absurd hhead nofun
  change (if (Text.oneLine (p :: s)).isEmpty = true then _ else Text.oneLine (p :: s)).head? = _
  rw [if_neg hne, hhead]

/-- The other messages with which a batch ends begin with another letter. -/
theorem Stop.not_isTaken_fatal (s : Text) :
    ¬ (Stop.fault (.fatal (Point.ofChar 'C' :: s))).IsTaken := by
  rintro ⟨target, h⟩
  have hmessage := congrArg (fun e : Stop => (Run.stopText e).head?) h
  refine absurd ((Fault.head?_fatal (by decide) s).symm.trans
    (hmessage.trans (Fault.head?_fatal (p := Point.ofChar 'O') (by decide) _))) ?_
  decide

theorem Stop.not_isTaken_failure (f : Failure) : ¬ (Stop.failure f).IsTaken :=
  fun ⟨_, h⟩ => nomatch h

theorem Stop.IsFailure.not_isTaken {e : Stop} (he : e.IsFailure) : ¬ e.IsTaken := by
  obtain ⟨f, rfl⟩ := he
  exact Stop.not_isTaken_failure f

/-- The stops that a batch can end in. -/
inductive Stop.Ordinary : Stop → Prop
  | fatal (message : Text) : Ordinary (.fault (.fatal message))
  | failure (f : Failure) : Ordinary (.failure f)
  | interrupt : Ordinary .interrupt

theorem Stop.IsFailure.ordinary {e : Stop} (he : e.IsFailure) : e.Ordinary := by
  obtain ⟨f, rfl⟩ := he
  exact .failure f

namespace Run

/-! ## Reading and converting -/

/-- Stops among which are all those of reading, converting and printing. -/
structure Admits (S : Stop → Prop) : Prop where
  failure : ∀ f, S (.failure f)
  interrupt : S .interrupt
  /-- The messages of such stops begin with this letter. -/
  fatal : ∀ s, S (.fault (.fatal (Point.ofChar 'C' :: s)))

theorem admits_ordinary : Admits Stop.Ordinary where
  failure := .failure
  interrupt := .interrupt
  fatal _ := .fatal _

theorem admits_not_isTaken : Admits fun e => ¬ e.IsTaken where
  failure := Stop.not_isTaken_failure
  interrupt := fun ⟨_, h⟩ => nomatch h
  fatal := Stop.not_isTaken_fatal

theorem keeps_readExport {P : World → Prop} {S : Stop → Prop} (hS : ∀ f, S (.failure f))
    (path : Path) : Keeps P S (readExport path) := by
  refine Keeps.bind ?_ fun _ => Keeps.pure
  refine (Keeps.ofExcept hS).bind fun _ => Keeps.get.bind fun w => ?_
  cases w.disk.read path.text with
  | ok content => exact Keeps.pure
  | error problem => exact Keeps.throw (hS _)

/-- A refusal of the file system becomes a message; other stops stay. -/
theorem triple_dieOnRefusal {α : Type} {P : World → Prop} {Q : α → World → Prop}
    {E F : Stop → World → Prop} {lead : Text} {body : Run α} (h : Triple P body Q F)
    (hF : ∀ e, Recorded (F e))
    (hdie : ∀ problem w, F (.failure (.file problem)) w →
      E (.fault (.fatal (lead ++ ": " ++ problem.message))) w)
    (hthrow : ∀ e w, F e w → E e w) : Triple P (dieOnRefusal lead body) Q E := by
  refine h.tryCatch fun e => ?_
  split
  · exact Triple.bind (Q := fun _ => F _) (Triple.modify fun w hw => (hF _).emit _ w hw) fun _ =>
      Triple.throw fun w hw => hdie _ w hw
  · exact Triple.throw fun w hw => hthrow _ w hw

theorem keeps_dieOnRefusal {α : Type} {P : World → Prop} {S : Stop → Prop} (hP : Recorded P)
    {lead : Text} {body : Run α} (hbody : Keeps P S body)
    (hlead : ∀ s, S (.fault (.fatal (lead ++ ": " ++ s)))) : Keeps P S (dieOnRefusal lead body) :=
  triple_dieOnRefusal hbody (fun _ => ⟨fun r w h => ⟨h.1, hP.emit r w h.2⟩⟩)
    (fun _ _ h => ⟨hlead _, h.2⟩) fun _ _ h => h

section

variable {P : World → Prop} {S : Stop → Prop} (hP : Settled P) (hS : Admits S)

include hP hS

theorem keeps_readInput : Keeps P S readInput := by
  refine Triple.get.bind fun w => ?_
  have hset : ∀ (i : Input) (s : Text), Triple (fun v => w = v ∧ P v)
      (do set { w with input := i }; return s) (fun _ => P) fun e v => S e ∧ P v :=
    fun i s => Triple.bind (Triple.set fun v hv => hP.input i w (hv.1 ▸ hv.2)) fun _ =>
      Triple.pure fun _ h => h
  cases w.input with
  | octets bs => exact hset _ _
  | text s => exact hset _ _
  | interrupted => exact Triple.throw fun v hv => ⟨hS.interrupt, hv.2⟩

theorem keeps_readSource (source : Source) : Keeps P S (readSource source) := by
  cases source with
  | standardInput => exact keeps_readInput hP hS
  | file path =>
    exact keeps_dieOnRefusal hP.toRecorded (keeps_readExport hS.failure _) fun _ => hS.fatal _
  | unfit v => exact Keeps.throw (hS.failure _)

theorem keeps_printScript (s : Settings) (script : Text) : Keeps P S (printScript s script) := by
  have hprint : ∀ t, Keeps P S (print t) := keeps_print hP hS.failure
  unfold printScript
  split_ifs
  · exact (Keeps.ofExcept hS.failure).bind fun _ => hprint _
  · exact Keeps.pure.bind fun _ => hprint _

end

section

variable {P : World → Prop} (hP : Recorded P)

include hP

/-- The result of a conversion, and the records of it. -/
theorem triple_convert (s : Text) :
    Triple P (convert s) (fun result w => tryConvert s = .ok result ∧ P w)
      fun e w => (∃ f, tryConvert s = .error f ∧ e = .failure f) ∧ P w := by
  have hnote : ∀ level message, Keeps P (fun _ => False) (noteConversion level message) :=
    fun _ _ => Keeps.modify fun w => hP.emit _ w
  refine Triple.bind (Q := fun _ => P) ((Keeps.forIn fun a _ b => (hnote _ _).bind fun _ =>
    Keeps.pure).mono_stop fun _ _ h => h.1.elim) fun _ => ?_
  refine Triple.bind (Q := fun result w => tryConvert s = .ok result ∧ P w)
    (Triple.ofExcept (fun _ h _ hw => ⟨h, hw⟩) fun f h _ hw => ⟨⟨f, h, rfl⟩, hw⟩) fun result => ?_
  split
  · refine Triple.bind (Q := fun _ w => tryConvert s = .ok result ∧ P w) ?_ fun _ =>
      Triple.pure fun _ h => h
    exact Triple.modify fun w hw => ⟨hw.1, hP.emit _ w hw.2⟩
  · exact Triple.pure fun _ h => h

end

/-! ## Looking at targets -/

/-- Looking at a path is refused, and not because it leads nowhere. -/
def Barred (d : Disk) (path : Text) (e : Stop) : Prop :=
  ∃ problem, e = .failure (.file ⟨problem, path, none⟩) ∧ d.stat path = .error problem ∧
    ¬ d.Lacks path

theorem Barred.isFailure {d : Disk} {path : Text} {e : Stop} (h : Barred d path e) :
    e.IsFailure := by
  obtain ⟨problem, rfl, -⟩ := h
  exact ⟨_, rfl⟩

/-- What looking at a path tells, if it tells anything. A text that can be no path leads nowhere. -/
theorem triple_pathExists (w : World) (path : Text) :
    Triple (fun v => v = w) (pathExists path)
      (fun there v => v = w ∧
        (there = true → checkPath path = .ok () ∧ ∃ n, w.disk.stat path = .ok n) ∧
        (there = false → checkPath path = .ok () → w.disk.Lacks path))
      fun e v => v = w ∧ checkPath path = .ok () ∧ Barred w.disk path e := by
  have hfind : Triple (fun v => v = w) (find? path)
      (fun n v => v = w ∧
        (∀ m, n = some m → checkPath path = .ok () ∧ w.disk.stat path = .ok m) ∧
        (n = none → checkPath path = .ok () → w.disk.Lacks path))
      fun e v => v = w ∧ checkPath path = .ok () ∧ Barred w.disk path e := by
    rw [find?]
    split
    · next f hf =>
      refine Triple.pure fun v hv => ⟨hv, fun m h => ?_, fun _ h => ?_⟩
      · cases h
      · cases hf.symm.trans h
    · next hfit =>
      refine Triple.get.bind fun v => ?_
      split
      · next n hn =>
        refine Triple.pure ?_
        rintro _ ⟨rfl, rfl⟩
        exact ⟨rfl, fun m h => ⟨hfit, hn.trans (congrArg Except.ok (Option.some.inj h))⟩,
          fun h => absurd h (Option.some_ne_none n)⟩
      · next hn =>
        refine Triple.pure ?_
        rintro _ ⟨rfl, rfl⟩
        exact ⟨rfl, fun m h => absurd h.symm (Option.some_ne_none m), fun _ _ => .inl hn⟩
      · next hn =>
        refine Triple.pure ?_
        rintro _ ⟨rfl, rfl⟩
        exact ⟨rfl, fun m h => absurd h.symm (Option.some_ne_none m), fun _ _ => .inr hn⟩
      · next problem hentry hdirectory hn =>
        refine Triple.throw ?_
        rintro _ ⟨rfl, rfl⟩
        refine ⟨rfl, hfit, problem, rfl, hn, fun hlacks => ?_⟩
        rcases hlacks with hlacks | hlacks
        · exact hentry (Except.error.inj (hn.symm.trans hlacks))
        · exact hdirectory (Except.error.inj (hn.symm.trans hlacks))
  refine hfind.bind fun n => Triple.pure ?_
  rintro v ⟨hv, hsome, hnone⟩
  cases n with
  | none => exact ⟨hv, fun h => absurd h Bool.false_ne_true, fun _ => hnone rfl⟩
  | some m =>
    exact ⟨hv, fun _ => ⟨(hsome m rfl).1, m, (hsome m rfl).2⟩,
      fun h => absurd h.symm Bool.false_ne_true⟩

/-- Nothing is found at a target, unless it may be replaced or cannot be written. -/
def Checked (s : Settings) (d : Disk) (target : Path) : Prop :=
  s.has "force" = false → checkPath target.text = .ok () → d.Lacks target.text

/-- Why a target does not pass its check: it is there, or it cannot be looked at. -/
structure Unchecked (s : Settings) (d : Disk) (target : Path) (e : Stop) : Prop where
  force : s.has "force" = false
  check : checkPath target.text = .ok ()
  reason : (e = .taken target ∧ ∃ n, d.stat target.text = .ok n) ∨ Barred d target.text e

theorem Unchecked.not_lacks {s : Settings} {d : Disk} {target : Path} {e : Stop}
    (h : Unchecked s d target e) : ¬ d.Lacks target.text := by
  intro hlacks
  rcases h.reason with ⟨-, n, hn⟩ | ⟨-, -, -, hnot⟩
  · rw [Disk.Lacks, hn] at hlacks
    rcases hlacks with hlacks | hlacks <;> cases hlacks
  · exact hnot hlacks

/-- A target that passes its check is not there, unless it may be replaced. -/
theorem triple_checkTarget {P : World → Prop} (hP : Recorded P) (s : Settings) (target : Path)
    {w : World} (hw : P w) :
    Triple (fun v => v = w) (checkTarget s target) (fun _ v => v = w ∧ Checked s w.disk target)
      fun e v => Unchecked s w.disk target e ∧ P v := by
  rw [checkTarget]
  split_ifs with hforce
  · have hforce : s.has "force" = false := by simpa using hforce
    refine ((triple_pathExists w target.text).mono_stop ?_).bind fun there => ?_
    · rintro e _ ⟨rfl, hcheck, hbarred⟩
      exact ⟨⟨hforce, hcheck, .inr hbarred⟩, hw⟩
    cases there with
    | false => exact Triple.pure fun v h => ⟨h.1, fun _ => h.2.2 rfl⟩
    | true =>
      refine Triple.bind (Q := fun _ v => Unchecked s w.disk target (.taken target) ∧ P v) ?_
        fun _ => Triple.throw fun _ h => h
      refine Triple.modify ?_
      rintro _ ⟨rfl, hthere, -⟩
      obtain ⟨hcheck, hn⟩ := hthere rfl
      exact ⟨⟨hforce, hcheck, .inl ⟨rfl, hn⟩⟩, hP.emit _ _ hw⟩
  · exact Triple.pure fun v hv => ⟨hv, fun h => absurd h (by simpa using hforce)⟩

theorem keeps_checkTarget {P : World → Prop} (hP : Recorded P) (s : Settings) (target : Path) :
    Keeps P Stop.Ordinary (checkTarget s target) := by
  rw [checkTarget]
  split_ifs
  · refine Keeps.bind (((keeps_find? _).mono fun _ h => h.ordinary).bind fun _ => Keeps.pure)
      fun there => ?_
    split_ifs
    · exact keeps_die hP (.fatal _)
    · exact Keeps.pure
  · exact Keeps.pure

/-! ## Writing scripts -/

theorem keeps_writeScript {P : World → Prop} (hP : Recorded P) {target : Path}
    (htarget : Indifferent P target) (s : Settings) (script : Text) :
    Keeps P Stop.Ordinary (writeScript s target script) := by
  refine (keeps_checkTarget hP s target).bind fun _ => (Keeps.ofExcept .failure).bind
    fun header => keeps_dieOnRefusal hP
      ((keeps_writeAtomically htarget _).mono fun _ h => h.ordinary) fun _ => .fatal _

/-- The octets of the file that a script is written to stand there. -/
def Written (s : Settings) (target : Path) (script : Text) (w : World) : Prop :=
  ∃ header, s.headerText = .ok header ∧
    w.Stands target (Script.encode (s.has "bom") (Script.layout header s.newline script))

theorem settled_written (s : Settings) (target : Path) (script : Text) :
    Settled (Written s target script) :=
  Settled.exists fun _ => (settled_stands _ _).and_left _

theorem triple_writeScript (s : Settings) (target : Path) (script : Text) :
    Triple (fun _ => True) (writeScript s target script) (fun _ => Written s target script)
      fun _ _ => True := by
  refine Triple.bind (Answers.any _) fun _ => ?_
  refine Triple.bind (Q := fun header _ => s.headerText = .ok header)
    (Triple.ofExcept (fun _ h _ _ => h) fun _ _ _ _ => trivial) fun header => ?_
  intro w hheader
  have hwrite : Triple (fun _ => True)
      (writeAtomically target
        (Script.encode (s.has "bom") (Script.layout header s.newline script)))
      (fun _ => Written s target script) fun _ _ => True :=
    (triple_writeAtomically target _).mono_answer fun _ v h => ⟨header, hheader, h⟩
  exact triple_dieOnRefusal hwrite (fun _ => settled_true.toRecorded) (fun _ _ h => h)
    (fun _ _ h => h) w trivial

/-- Nothing is at a target, if it is one that can be written. -/
def Free (d : Disk) (target : Path) (w : World) : Prop :=
  checkPath target.text = .ok () → w.Keeping d (d.placeOf target) none

theorem settled_free (d : Disk) (target : Path) : Settled (Free d target) :=
  Settled.forall fun _ => settled_keeping _ _ _

/-- A script whose target is free is not kept from being written by what is there. -/
theorem triple_writeScript_free {d : Disk} {target : Path} (htarget : target.WellFormed)
    (s : Settings) (script : Text) :
    Triple (Free d target) (writeScript s target script) (fun _ _ => True)
      fun e _ => ¬ e.IsTaken := by
  have hcheck : Triple (Free d target) (checkTarget s target) (fun _ _ => True)
      fun e _ => ¬ e.IsTaken := by
    intro w hw
    refine ((triple_checkTarget settled_true.toRecorded s target trivial).mono (fun _ h => h)
      (fun _ _ _ => trivial) ?_) w rfl
    rintro e v ⟨⟨-, hfit, ⟨-, n, hn⟩ | ⟨problem, rfl, -⟩⟩, -⟩ htaken
    · obtain ⟨p, hl, hp⟩ := Disk.stat_eq_ok hn
      rw [Disk.locate_text_eq_ok htarget hl, (hw hfit).grows.placeOf, (hw hfit).node] at hp
      exact absurd hp nofun
    · exact absurd htaken (Stop.not_isTaken_failure _)
  have hwrite : ∀ content, Keeps (fun _ => True) (fun e => ¬ e.IsTaken)
      (dieOnRefusal ("Cannot write " ++ target.text) (writeAtomically target content)) := by
    intro content
    refine keeps_dieOnRefusal settled_true.toRecorded ?_ fun _ => Stop.not_isTaken_fatal _
    exact (keeps_writeAtomically (indifferent_true target) content).mono fun _ h => h.not_isTaken
  refine hcheck.bind fun _ => Triple.bind (Q := fun _ _ => True)
    (Triple.ofExcept (fun _ _ _ _ => trivial) fun f _ _ _ => Stop.not_isTaken_failure f)
    fun header => ?_
  exact Triple.mono_stop (hwrite _) fun _ _ h => h.1

/-! ## One source -/

/-- Where a script goes. -/
def deliver (s : Settings) (target : Option Path) (script : Text) : Run Unit :=
  match target with
  | some t => writeScript s t script
  | none => if !s.reports then printScript s script else pure ()

/-- What holds while a source is converted, once it is known what its reading does and what the
delivery of its script does. -/
theorem triple_convertSource {P : World → Prop} {R : Text → World → Prop}
    {Q : Outcome → World → Prop} {E : Stop → World → Prop} {s : Settings} {source : Source}
    {target : Option Path} (hP : Recorded P) (hR : ∀ text, Recorded (R text))
    (hQ : ∀ o, Recorded (Q o)) (hE : ∀ e, Recorded (E e))
    (hname : source.toValue.display? = none → ∀ w, P w → E (.failure .numeralNotWritten) w)
    (hread : Triple P (readSource source) R E)
    (hconvert : ∀ text f, tryConvert text = .error f → ∀ w, R text w → E (.failure f) w)
    (htell : ∀ text result f, tryConvert text = .ok result → result.fault = some f →
      (f.withContext [("file", source.toValue)]).userMessage? = none →
      ∀ w, R text w → E (.failure .numeralNotWritten) w)
    (hrefuse : ∀ text result, tryConvert text = .ok result → result.isOk = false →
      ∀ w, R text w → Q ⟨source, result, none⟩ w)
    (hdeliver : ∀ text result, tryConvert text = .ok result → result.isOk = true →
      Triple (R text) (deliver s target (result.script.getD []))
        (fun _ => Q ⟨source, result, target⟩) E) :
    Triple P (convertSource s source target) Q E := by
  have hconverted : ∀ text, Triple (R text) (convert text)
      (fun result w => ∃ text, tryConvert text = .ok result ∧ R text w) E := by
    refine fun text => (triple_convert (hR text) text).mono (fun _ h => h)
      (fun result w h => ⟨text, h⟩) ?_
    rintro _ w ⟨⟨f, hf, rfl⟩, hw⟩
    exact hconvert text f hf w hw
  have hrecorded : ∀ result, Recorded fun w => ∃ text, tryConvert text = .ok result ∧ R text w :=
    fun result => ⟨fun r w ⟨text, htext, hw⟩ => ⟨text, htext, (hR text).emit r w hw⟩⟩
  refine Triple.bind (Q := fun _ => P) ?_ fun name => ?_
  · rw [sourceName, display]
    cases hdisplay : source.toValue.display? with
    | some name => exact Triple.pure fun _ h => h
    | none => exact Triple.throw (hname hdisplay)
  refine (triple_step hP (hread.bind hconverted) hrecorded hE _ _).bind fun result => ?_
  rintro w ⟨text, htext, hw⟩
  refine (?_ : Triple (R text) _ Q E) w hw
  cases hfault : result.fault with
  | some f =>
    have hfailed : result.isOk = false := by rw [Result.isOk, hfault]; rfl
    refine Triple.bind (Q := fun _ => R text) ?_ fun _ =>
      Triple.pure (hrefuse text result htext hfailed)
    refine Triple.bind (Q := fun _ => R text) ?_ fun _ =>
      Triple.modify fun w hw => (hR text).emit _ w hw
    cases hmessage : (f.withContext [("file", source.toValue)]).userMessage? with
    | some message => exact Triple.pure fun _ h => h
    | none => exact Triple.throw (htell text result f htext hfault hmessage)
  | none =>
    have hok : result.isOk = true := by rw [Result.isOk, hfault]; rfl
    have hdelivered := hdeliver text result htext hok
    cases target with
    | some t =>
      refine hdelivered.bind fun _ => Triple.bind (Q := fun _ => Q ⟨source, result, some t⟩) ?_
        fun _ => Triple.pure fun _ h => h
      exact Triple.modify fun w => (hQ _).emit _ w
    | none =>
      dsimp only [deliver] at hdelivered ⊢
      split_ifs at hdelivered ⊢
      · exact hdelivered.bind fun _ => Triple.pure fun _ h => h
      · exact hdelivered

/-- What holds while a source is converted, once it is known what the writing of its script does. -/
theorem triple_convertSource_of_write {P : World → Prop} {W : Path → Text → World → Prop}
    {Q : Outcome → World → Prop} {E : Stop → World → Prop} {S : Stop → Prop} {s : Settings}
    {source : Source} {target : Option Path} (hP : Settled P) (hS : Admits S)
    (hQ : ∀ o, Recorded (Q o)) (hE : ∀ e, Recorded (E e)) (hstop : ∀ e w, S e → P w → E e w)
    (hwrite : ∀ t ∈ target, ∀ script, Triple P (writeScript s t script) (fun _ => W t script) E)
    (hnone : ∀ result w, P w → Q ⟨source, result, none⟩ w)
    (hsome : ∀ t ∈ target, ∀ (result : Result) w, W t (result.script.getD []) w →
      Q ⟨source, result, some t⟩ w) :
    Triple P (convertSource s source target) Q E := by
  have hfailure : ∀ f w, P w → E (.failure f) w :=
    fun f w hw => hstop _ w (hS.failure f) hw
  have hkeeps : ∀ {α : Type} {x : Run α}, Keeps P S x → Triple P x (fun _ => P) E :=
    fun h => Triple.mono_stop h fun e w h => hstop e w h.1 h.2
  refine triple_convertSource (R := fun _ => P) hP.toRecorded (fun _ => hP.toRecorded) hQ hE
    (fun _ => hfailure _) (hkeeps (keeps_readSource hP hS source))
    (fun _ f _ => hfailure f) (fun _ _ _ _ _ _ => hfailure _) (fun _ result _ _ => hnone result)
    fun _ result _ _ => ?_
  cases target with
  | some t => exact (hwrite t rfl _).mono_answer fun _ => hsome t rfl result
  | none =>
    dsimp only [deliver]
    split_ifs
    · exact (hkeeps (keeps_printScript hP hS _ _)).mono_answer fun _ => hnone result
    · exact Triple.pure (hnone result)

/-- A source leaves what the writing of its script leaves. -/
theorem keeps_convertSource {P : World → Prop} (hP : Settled P) (s : Settings) (source : Source)
    {target : Option Path} (htarget : ∀ t ∈ target, Indifferent P t) :
    Keeps P Stop.Ordinary (convertSource s source target) :=
  triple_convertSource_of_write (W := fun _ _ => P) hP admits_ordinary (fun _ => hP.toRecorded)
    (fun e => (hP.and_left e.Ordinary).toRecorded) (fun _ _ he h => ⟨he, h⟩)
    (fun t ht script => keeps_writeScript hP.toRecorded (htarget t ht) s script) (fun _ _ h => h)
    fun _ _ _ _ h => h

/-- A source whose target is free is not kept from being converted by what is there. -/
theorem triple_convertSource_free {d : Disk} {target : Option Path}
    (htarget : ∀ t ∈ target, t.WellFormed) (s : Settings) (source : Source) :
    Triple (fun w => ∀ t ∈ target, Free d t w) (convertSource s source target) (fun _ _ => True)
      fun e _ => ¬ e.IsTaken := by
  have hP : Settled fun w => ∀ t ∈ target, Free d t w :=
    Settled.forall fun t => Settled.forall fun _ => settled_free d t
  exact triple_convertSource_of_write (W := fun _ _ _ => True) hP admits_not_isTaken
    (fun _ => settled_true.toRecorded) (fun _ => ⟨fun _ _ h => h⟩) (fun _ _ h _ => h)
    (fun t ht script => (triple_writeScript_free (htarget t ht) s script).mono_before
      fun _ h => h t ht)
    (fun _ _ _ => trivial) fun _ _ _ _ _ => trivial

/-- The script of an outcome with a target is written there. -/
theorem triple_convertSource_written (s : Settings) (source : Source) (target : Option Path) :
    Triple (fun _ => True) (convertSource s source target)
      (fun o w => ∀ t ∈ o.target, t ∈ target ∧ Written s t (o.result.script.getD []) w)
      fun _ _ => True :=
  triple_convertSource_of_write (W := Written s) settled_true admits_ordinary
    (fun _ => (Settled.forall fun t => Settled.forall fun _ =>
      (settled_written s t _).and_left _).toRecorded)
    (fun _ => settled_true.toRecorded) (fun _ _ _ _ => trivial)
    (fun t _ script => triple_writeScript s t script)
    (fun _ _ _ _ ht => nomatch ht) fun t ht result w h u hu => by
      obtain rfl : t = u := Option.some.inj hu
      exact ⟨ht, h⟩

/-! ## All sources -/

theorem triple_attempt {α : Type} {P : World → Prop} {Q : α → World → Prop}
    {E : Stop → World → Prop} {x : Run α} (h : Triple P x Q E) :
    Triple P (attempt x) (fun r w => Ended Q E (r, w)) fun _ _ => False :=
  Triple.tryCatch (h.bind fun _ => Triple.pure fun _ h => h) fun _ => Triple.pure fun _ h => h

theorem keeps_convertAll {P : World → Prop} (hP : Settled P) (s : Settings)
    {pairs : List (Source × Option Path)} (h : ∀ pair ∈ pairs, ∀ t ∈ pair.2, Indifferent P t) :
    Triple P (convertAll s pairs) (fun _ => P) fun _ _ => False := by
  induction pairs with
  | nil => exact Triple.pure fun _ h => h
  | cons pair pairs ih =>
    rw [List.forall_mem_cons] at h
    rw [convertAll]
    refine (triple_attempt (keeps_convertSource hP s pair.1 h.1)).bind fun r => ?_
    cases r with
    | error stop => exact Triple.pure fun _ h => h.2
    | ok o => exact (ih h.2).bind fun _ => Triple.pure fun _ h => h

end Run

end HiveScript
