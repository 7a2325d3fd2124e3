import HiveScript.Proofs.Batch.Scripts
import HiveScript.Proofs.Encoding.Streams
import HiveScript.Proofs.Run.Following

/-!
# Steps of a batch

What the conversion of one source comes to, and what it leaves: a script in its file or on the
output, or nothing at all.

* `Source.path?`: the path of a source that is a file.
* `World.text?`, `World.result?`: the text of a source and its result, before anything is read.
* `Run.triple_readSource`: reading yields the text.
* `Run.triple_deliver`: what the delivery of a script leaves.
* `Converted`, `Halted`: the two endings of a source; **`Run.triple_convertSource_step`**.
-/

namespace HiveScript

/-! ## Texts of sources -/

/-- The path of a source that is a file. -/
def Source.path? : Source → Option Text
  | .file path => some path
  | _ => none

theorem Source.path?_eq_some_iff {source : Source} {path : Text} :
    source.path? = some path ↔ source = .file path := by
  cases source with
  | file p => rw [path?, Option.some.injEq, file.injEq]
  | standardInput => constructor <;> intro h <;> cases h
  | unfit v => constructor <;> intro h <;> cases h

/-- The text of a source, if it can be read. -/
def World.text? (w : World) : Source → Option Text
  | .standardInput =>
    match w.input with
    | .octets bs => some (decodeExport bs)
    | .text s => some s
    | .interrupted => none
  | .file path =>
    match checkPath (Path.ofText path).text, w.disk.read (Path.ofText path).text with
    | .ok (), .ok content => some (decodeExport content)
    | _, _ => none
  | .unfit _ => none

/-- The result of a source, if it can be read. -/
def World.result? (w : World) (source : Source) : Option Result :=
  (w.text? source).bind fun text => (tryConvert text).toOption

/-- No sink adds to the file that a source is. -/
def World.QuietFor (w : World) : Source → Prop
  | .file path => ∀ q, w.disk.locate (Path.ofText path).text = .ok q → w.Quiet q
  | _ => True

/-- What stands ready once a source is read. -/
def Input.after (i : Input) : Source → Input
  | .standardInput =>
    match i with
    | .octets _ => .octets []
    | .text _ => .text []
    | .interrupted => .interrupted
  | _ => i

/-- A world under files that were written, with what is left of its input and what is on its
output by now. -/
structure World.Becomes (files : List (Path × Bytes)) (tried : List Path) (input : Input)
    (output : Stream) (w v : World) : Prop where
  follows : w.Follows files tried v
  input : v.input = input
  output : v.output = output

/-- A world in which there are only records more. -/
abbrev World.Idles (w v : World) : Prop := w.Becomes [] [] w.input w.output v

namespace World

variable {w v : World} {source : Source} {text : Text}

theorem exists_toValue_of_text? (h : w.text? source = some text) :
    ∃ name, source.toValue = .text name := by
  cases source with
  | standardInput => exact ⟨_, rfl⟩
  | file path => exact ⟨_, rfl⟩
  | unfit v => cases h

theorem text?_file_eq_some_iff {path : Text} :
    w.text? (.file path) = some text ↔ checkPath (Path.ofText path).text = .ok () ∧
      ∃ q content, w.disk.locate (Path.ofText path).text = .ok q ∧
        w.disk.find? q = some (.file content) ∧ text = decodeExport content := by
  rw [text?]
  constructor
  · intro h
    split at h
    · next content hcheck hread =>
      obtain ⟨q, hl, hq⟩ := Disk.read_eq_ok_iff.mp hread
      exact ⟨hcheck, q, content, hl, hq, (Option.some.inj h).symm⟩
    · cases h
  · rintro ⟨hcheck, q, content, hl, hq, rfl⟩
    rw [hcheck, Disk.read_eq_ok_iff.mpr ⟨q, hl, hq⟩]

/-- Records leave what a source is, unless they go to it. -/
theorem Idles.text?_eq (h : w.Idles v) (hquiet : w.QuietFor source) :
    v.text? source = w.text? source := by
  cases source with
  | standardInput => rw [text?, text?, h.input]
  | unfit u => rfl
  | file path =>
    refine Option.ext fun text => ?_
    rw [text?_file_eq_some_iff, text?_file_eq_some_iff]
    refine and_congr_right fun _ => exists_congr fun q => exists_congr fun content => ?_
    rw [h.follows.alike.locate]
    refine and_congr_right fun hl => ?_
    rw [h.follows.find?_eq (hquiet q hl)]

end World

namespace Run

theorem recorded_input (i : Input) : Recorded fun w => w.input = i :=
  ⟨fun r _ h => World.emit_induction (P := fun w => w.input = i) (fun _ _ _ _ _ h => h)
    (fun _ _ _ _ h => h) r h⟩

theorem recorded_output (o : Stream) : Recorded fun w => w.output = o :=
  ⟨fun r _ h => World.emit_induction (P := fun w => w.output = o) (fun _ _ _ _ _ h => h)
    (fun _ _ _ _ h => h) r h⟩

theorem recorded_becomes (files : List (Path × Bytes)) (tried : List Path) (i : Input) (o : Stream)
    (w : World) : Recorded fun v => w.Becomes files tried i o v :=
  ⟨fun r v h => ⟨(settled_follows files tried w).emit r v h.follows,
    (recorded_input i).emit r v h.input, (recorded_output o).emit r v h.output⟩⟩

/-! ## Reading -/

theorem triple_readFile (path : Text) (w : World) :
    Triple (fun v => v = w) (readFile path)
      (fun content v => (checkPath path = .ok () ∧ w.disk.read path = .ok content) ∧ v = w)
      fun _ v => (∀ content, checkPath path = .ok () → w.disk.read path ≠ .ok content) ∧ v = w := by
  refine Triple.bind (Q := fun _ v => checkPath path = .ok () ∧ v = w)
    (Triple.ofExcept (fun _ h _ hv => ⟨h, hv⟩) fun f h v hv => ⟨fun _ hc => ?_, hv⟩) fun _ => ?_
  · exact absurd (h.symm.trans hc) nofun
  · refine Triple.get.bind fun v => ?_
    cases hread : v.disk.read path with
    | ok content =>
      refine Triple.pure ?_
      rintro _ ⟨rfl, hcheck, rfl⟩
      exact ⟨⟨hcheck, hread⟩, rfl⟩
    | error f =>
      refine Triple.throw ?_
      rintro _ ⟨rfl, -, rfl⟩
      exact ⟨fun _ _ h => absurd (hread.symm.trans h) nofun, rfl⟩

/-- **Reading yields the text of a source.** -/
theorem triple_readSource (source : Source) (w : World) :
    Triple (fun v => v = w) (readSource source)
      (fun text v => w.text? source = some text ∧ w.Becomes [] [] (w.input.after source) w.output v)
      fun _ v => w.text? source = none ∧ w.Idles v := by
  have hidles : w.Idles w := ⟨.refl w, rfl, rfl⟩
  cases source with
  | unfit u =>
    refine Triple.throw ?_
    rintro _ rfl
    exact ⟨rfl, hidles⟩
  | standardInput =>
    refine Triple.get.bind fun v => ?_
    have hset : ∀ (i : Input) (text : Text), v.text? .standardInput = some text →
        v.input.after .standardInput = i → Triple (fun u => v = u ∧ u = w)
          (do set { v with input := i }; return text)
          (fun text v => w.text? .standardInput = some text ∧
            w.Becomes [] [] (w.input.after .standardInput) w.output v)
          fun _ v => w.text? .standardInput = none ∧ w.Idles v := by
      intro i text htext hi
      refine Triple.bind (Triple.set (R := fun _ u => u = { v with input := i } ∧ v = w) ?_)
        fun _ => Triple.pure ?_
      · rintro _ ⟨rfl, rfl⟩
        exact ⟨rfl, rfl⟩
      · rintro _ ⟨rfl, rfl⟩
        exact ⟨htext, (settled_follows [] [] v).input i v (.refl v), hi.symm, rfl⟩
    cases hinput : v.input with
    | octets bs => exact hset _ _ (by rw [World.text?, hinput]) (by rw [hinput]; rfl)
    | text s => exact hset _ _ (by rw [World.text?, hinput]) (by rw [hinput]; rfl)
    | interrupted =>
      refine Triple.throw ?_
      rintro _ ⟨rfl, rfl⟩
      exact ⟨by rw [World.text?, hinput], hidles⟩
  | file path =>
    set target := (Path.ofText path).text with htarget
    have hexport : Triple (fun v => v = w) (readExport (Path.ofText path))
        (fun text v => w.text? (.file path) = some text ∧ v = w)
        fun _ v => w.text? (.file path) = none ∧ w.Idles v := by
      refine (triple_readFile target w).mono_stop ?_ |>.bind fun content => Triple.pure ?_
      · rintro _ _ ⟨hnone, rfl⟩
        refine ⟨?_, hidles⟩
        rw [World.text?, ← htarget]
        split
        · next content hcheck hread => exact absurd hread (hnone content hcheck)
        · rfl
      · rintro _ ⟨⟨hcheck, hread⟩, rfl⟩
        refine ⟨?_, rfl⟩
        rw [World.text?, ← htarget, hcheck, hread]
    refine (triple_dieOnRefusal hexport (fun _ => ⟨fun r v h => ?_⟩) (fun _ _ h => h)
      fun _ _ h => h).mono_answer ?_
    · exact ⟨h.1, (recorded_becomes _ _ _ _ _).emit r v h.2⟩
    · rintro text _ ⟨htext, rfl⟩
      exact ⟨htext, hidles⟩

/-! ## Delivering -/

end Run

namespace Settings

/-- The header of scripts, if they can have one. -/
def scriptHeader (s : Settings) : Option Text := s.headerText.toOption.join

/-- The octets of the file that a script is written to. -/
def scriptOctets (s : Settings) (script : Text) : Bytes :=
  Script.encode (s.has "bom") (Script.layout s.scriptHeader s.newline script)

/-- What is printed of a script. -/
def printedText (s : Settings) (script : Text) : Text :=
  Script.layout (if s.has "stdout_header" then s.scriptHeader else none) [Point.lineFeed] script

/-- The files that a script is written to. -/
def filesOf (s : Settings) (target : Option Path) (script : Text) : List (Path × Bytes) :=
  target.toList.map fun t => (t, s.scriptOctets script)

/-- What is printed of a script that has some target, or has none. -/
def printedOf (s : Settings) (target : Option Path) (script : Text) : Text :=
  if target.isNone && !s.reports then s.printedText script else []

end Settings

theorem World.Placed.becomes {w v : World} {target : Path} {content : Bytes}
    (h : w.Placed target.parent target content v) :
    w.Becomes [(target, content)] [target] w.input w.output v := by
  refine ⟨h.follows, ?_, ?_⟩
  all_goals
    obtain ⟨u, q, ⟨-, hu⟩, hv⟩ := h
    rw [hv.eq, hu]

theorem World.Placed.check {w v : World} {way target : Path} {content : Bytes}
    (h : w.Placed way target content v) : checkPath target.text = .ok () := by
  obtain ⟨u, q, -, hv⟩ := h
  exact hv.check

theorem World.Cleared.becomes {w v : World} {target : Path} (h : w.Cleared target.parent v) :
    w.Becomes [] [target] w.input w.output v := by
  refine ⟨h.follows, ?_, ?_⟩
  all_goals rw [h.2]

namespace Run

variable {w : World}

theorem triple_print (t : Text) :
    Triple (fun v => v = w) (print t) (fun _ v => v = { w with output := w.output.adding t })
      fun e v => v = w ∧ ∃ f, w.output.write t = .error f ∧ e = .failure f := by
  refine Triple.get.bind fun v => ?_
  refine Triple.bind (Q := fun o u => o = w.output.adding t ∧ u = w ∧ v = w)
    (Triple.ofExcept ?_ ?_) fun o => Triple.set ?_
  · rintro o ho _ ⟨rfl, rfl⟩
    exact ⟨Stream.eq_adding_of_write ho, rfl, rfl⟩
  · rintro f hf _ ⟨rfl, rfl⟩
    exact ⟨rfl, f, hf, rfl⟩
  · rintro _ ⟨rfl, -, rfl⟩
    rfl

theorem triple_headerText (s : Settings) {P : World → Prop} :
    Triple P (ofExcept s.headerText) (fun header v => header = s.scriptHeader ∧ P v)
      fun _ => P := by
  refine Triple.ofExcept (fun header h v hv => ⟨?_, hv⟩) fun _ _ _ h => h
  rw [Settings.scriptHeader, h]
  rfl

/-- A script is written to its file, or leaves only directories. -/
theorem triple_writeScript_becomes (s : Settings) (target : Path) (script : Text) :
    Triple (fun v => v = w) (writeScript s target script)
      (fun _ v => checkPath target.text = .ok () ∧
        w.Becomes [(target, s.scriptOctets script)] [target] w.input w.output v)
      fun _ v => w.Becomes [] [target] w.input w.output v := by
  have hidles : w.Idles w := ⟨.refl w, rfl, rfl⟩
  have hweaken : ∀ v, w.Idles v → w.Becomes [] [target] w.input w.output v :=
    fun v h => ⟨h.follows.mono (List.nil_subset _), h.input, h.output⟩
  refine Triple.bind (Q := fun _ v => v = w) ?_ fun _ => (triple_headerText s).mono_stop ?_ |>.bind
    fun header => ?_
  · exact (triple_checkTarget (recorded_becomes [] [] w.input w.output w) s target hidles).mono
      (fun _ h => h) (fun _ _ h => h.1) fun _ v h => hweaken v h.2
  · rintro _ _ rfl
    exact hweaken _ hidles
  · rintro w ⟨rfl, rfl⟩
    have hwrite : Triple (fun v => v = w) (writeAtomically target (s.scriptOctets script))
        (fun _ v => checkPath target.text = .ok () ∧
          w.Becomes [(target, s.scriptOctets script)] [target] w.input w.output v)
        fun _ v => w.Becomes [] [target] w.input w.output v :=
      (triple_writeAtomically_placed target _).mono (fun _ h => h)
        (fun _ _ h => ⟨h.check, h.becomes⟩) fun _ _ h => h.becomes
    exact triple_dieOnRefusal hwrite (fun _ => recorded_becomes _ _ _ _ _) (fun _ _ h => h)
      (fun _ _ h => h) w rfl

theorem triple_printScript (s : Settings) (script : Text) :
    Triple (fun v => v = w) (printScript s script)
      (fun _ v => v = { w with output := w.output.adding (s.printedText script) })
      fun _ v => v = w := by
  rw [printScript, Settings.printedText]
  split_ifs
  · refine (triple_headerText s).bind fun header => ?_
    rintro v ⟨rfl, rfl⟩
    exact (triple_print _).mono_stop (fun _ _ h => h.1) v rfl
  · refine Triple.bind (Q := fun header v => header = none ∧ v = w)
      (Triple.pure fun _ h => ⟨rfl, h⟩) fun header => ?_
    rintro v ⟨rfl, rfl⟩
    exact (triple_print _).mono_stop (fun _ _ h => h.1) v rfl

/-- **A script goes to its file or to the output**, or leaves only directories. -/
theorem triple_deliver (s : Settings) (target : Option Path) (script : Text) :
    Triple (fun v => v = w) (deliver s target script)
      (fun _ v => (∀ t ∈ target, checkPath t.text = .ok ()) ∧
        w.Becomes (s.filesOf target script) target.toList w.input
          (w.output.adding (s.printedOf target script)) v)
      fun _ v => w.Becomes [] target.toList w.input w.output v := by
  have hidles : w.Idles w := ⟨.refl w, rfl, rfl⟩
  cases target with
  | some t =>
    refine (triple_writeScript_becomes s t script).mono_answer fun _ v ⟨hcheck, h⟩ => ⟨?_, ?_⟩
    · rintro _ ⟨⟩
      exact hcheck
    · rw [← Stream.adding_nil w.output] at h
      exact h
  | none =>
    dsimp only [deliver]
    split_ifs with hreports
    · have hprinted : s.printedOf none script = s.printedText script := if_pos hreports
      rw [hprinted]
      exact (triple_printScript s script).mono (fun _ h => h)
        (fun _ _ h => h ▸ ⟨nofun, (settled_follows [] [] w).output _ w (.refl w), rfl, rfl⟩)
        fun _ _ h => h ▸ hidles
    · refine Triple.pure ?_
      rintro v rfl
      have hprinted : s.printedOf none script = [] := if_neg hreports
      rw [hprinted, Stream.adding_nil]
      exact ⟨nofun, hidles⟩

end Run

/-! ## Sources -/

namespace Outcome

/-- The files that the script of an outcome was written to. -/
def files (s : Settings) (o : Outcome) : List (Path × Bytes) :=
  s.filesOf o.target (o.result.script.getD [])

/-- What was printed of an outcome. -/
def printed (s : Settings) (o : Outcome) : Text :=
  if o.result.isOk then s.printedOf o.target (o.result.script.getD []) else []

end Outcome

namespace Run

/-- A source was converted, and what came of it is an outcome. -/
structure Converted (s : Settings) (source : Source) (target : Option Path) (w : World)
    (o : Outcome) (v : World) : Prop where
  source_eq : o.source = source
  target_eq : o.target = if o.result.isOk then target else none
  check : ∀ t ∈ o.target, checkPath t.text = .ok ()
  result : w.QuietFor source → w.result? source = some o.result
  becomes : w.Becomes (o.files s) o.target.toList (w.input.after source)
    (w.output.adding (o.printed s)) v

/-- A source ended the batch. If it has a result, then it is the script that could not be
delivered. -/
structure Halted (s : Settings) (source : Source) (target : Option Path) (w : World) (e : Stop)
    (v : World) : Prop where
  follows : w.Follows [] target.toList v
  output : v.output = w.output
  cause : w.QuietFor source → ∀ result, w.result? source = some result → result.isOk = true ∧
    ∃ u v', w.Becomes [] [] (w.input.after source) w.output u ∧
      (deliver s target (result.script.getD [])).after u = (.error e, v')

theorem recorded_converted (s : Settings) (source : Source) (target : Option Path) (w : World)
    (o : Outcome) : Recorded fun v => Converted s source target w o v :=
  ⟨fun r v h => ⟨h.source_eq, h.target_eq, h.check, h.result,
    (recorded_becomes _ _ _ _ _).emit r v h.becomes⟩⟩

theorem recorded_halted (s : Settings) (source : Source) (target : Option Path) (w : World)
    (e : Stop) : Recorded fun v => Halted s source target w e v :=
  ⟨fun r v h => ⟨(settled_follows _ _ w).emit r v h.follows, (recorded_output _).emit r v h.output,
    h.cause⟩⟩

/-- The message of a refused conversion can be told. -/
theorem userMessage?_ne_none {text name : Text} {result : Result} {f : Fault}
    (h : tryConvert text = .ok result) (hf : result.fault = some f) :
    (f.withContext [("file", .text name)]).userMessage? ≠ none := by
  have hcontext : f.context = [] := by
    rw [tryConvert] at h
    split at h
    · obtain rfl := Except.ok.inj h
      cases hf
    · obtain rfl := Except.ok.inj h
      obtain rfl := Option.some.inj hf
      rfl
    · cases h
  have hfile : (f.withContext [("file", .text name)]).context =
      [(Text.ofString "file", .text name)] := by
    rw [Fault.withContext, hcontext]
    rfl
  rw [Fault.userMessage?, hfile]
  simp [Fault.contextText?, sortNamed, Value.inspect?, Scalar.inspect?]

variable {w : World}

/-- **What the conversion of a source comes to.** -/
theorem triple_convertSource_step (s : Settings) (source : Source) (target : Option Path) :
    Triple (fun v => v = w) (convertSource s source target)
      (fun o v => Converted s source target w o v) fun e v => Halted s source target w e v := by
  have hidles : w.Idles w := ⟨.refl w, rfl, rfl⟩
  set R : Text → World → Prop := fun text v => (w.QuietFor source → w.text? source = some text) ∧
    (∃ name, source.toValue = .text name) ∧
    w.Becomes [] [] (w.input.after source) w.output v with hR
  have hrecorded : ∀ text, Recorded (R text) := fun text =>
    ⟨fun r v h => ⟨h.1, h.2.1, (recorded_becomes _ _ _ _ _).emit r v h.2.2⟩⟩
  have hresult : ∀ {text : Text} {result : Result} {v : World}, R text v →
      tryConvert text = .ok result → w.QuietFor source → w.result? source = some result := by
    intro text result v hv htext hquiet
    rw [World.result?, hv.1 hquiet, Option.bind_some, htext]
    rfl
  refine Triple.mono_before (triple_convertSource (P := fun v => w.Idles v) (R := R)
    (recorded_becomes _ _ _ _ _) hrecorded (recorded_converted s source target w)
    (recorded_halted s source target w) ?_ ?_ ?_ ?_ ?_ ?_) ?_
  · -- What has no name has no text.
    refine fun hname v hv => ⟨hv.follows.mono (List.nil_subset _), hv.output, fun _ result h => ?_⟩
    obtain ⟨text, htext, -⟩ := Option.bind_eq_some_iff.mp h
    obtain ⟨name, htoValue⟩ := World.exists_toValue_of_text? htext
    rw [htoValue] at hname
    cases hname
  · intro v hv
    refine ((triple_readSource source v).mono (fun _ h => h) ?_ ?_) v rfl
    · rintro text u ⟨htext, hu⟩
      rw [hv.input, hv.output] at hu
      refine ⟨fun hquiet => (hv.text?_eq hquiet).symm.trans htext,
        World.exists_toValue_of_text? htext, hv.follows.trans hu.follows, hu.input, hu.output⟩
    · rintro e u ⟨htext, hu⟩
      refine ⟨(hv.follows.trans hu.follows).mono (List.nil_subset _), hu.output.trans hv.output,
        fun hquiet result h => ?_⟩
      rw [World.result?, ← hv.text?_eq hquiet, htext] at h
      cases h
  · rintro text f hf v ⟨htext, -, hv⟩
    refine ⟨hv.follows.mono (List.nil_subset _), hv.output, fun hquiet result h => ?_⟩
    rw [World.result?, htext hquiet, Option.bind_some, hf] at h
    cases h
  · rintro text result f htext hfault hmessage v ⟨-, ⟨name, hname⟩, -⟩
    rw [hname] at hmessage
    exact absurd hmessage (userMessage?_ne_none htext hfault)
  · intro text result htext hfailed v hv
    have hprinted : Outcome.printed s ⟨source, result, none⟩ = [] :=
      if_neg (by rw [hfailed]; exact nofun)
    refine ⟨rfl, (if_neg (by rw [hfailed]; exact nofun)).symm, nofun, hresult hv htext, ?_⟩
    rw [hprinted, Stream.adding_nil]
    exact hv.2.2
  · intro text result htext hok u hu
    have hprinted : Outcome.printed s ⟨source, result, target⟩ =
        s.printedOf target (result.script.getD []) := if_pos hok
    have hbecomes := hu.2.2
    refine ((triple_deliver s target (result.script.getD [])).and_after.mono (fun _ h => h)
      ?_ ?_) u rfl
    · rintro _ v ⟨⟨hcheck, hv⟩, -⟩
      refine ⟨rfl, (if_pos hok).symm, hcheck, hresult hu htext, ?_⟩
      rw [hprinted]
      rw [hbecomes.input, hbecomes.output] at hv
      exact ⟨hbecomes.follows.trans hv.follows, hv.input, hv.output⟩
    · rintro e v ⟨hv, hafter⟩
      refine ⟨hbecomes.follows.trans hv.follows, hv.output.trans hbecomes.output,
        fun hquiet found hfound => ?_⟩
      obtain rfl := Option.some.inj (hfound.symm.trans (hresult hu htext hquiet))
      exact ⟨hok, u, v, hbecomes, hafter⟩
  · rintro _ rfl
    exact hidles

end Run

end HiveScript
