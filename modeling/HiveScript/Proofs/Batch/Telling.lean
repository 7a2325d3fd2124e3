import HiveScript.Proofs.Batch.Histories
import HiveScript.Proofs.Encoding.Streams
import HiveScript.Proofs.Json.RoundTrip

/-!
# What the report of a batch tells

The report is the only thing that a reporting batch prints. It is in ASCII, so that any output takes
it, and what is read back from it are the outcomes.

* `Outcome.Told`: what the report tells of an outcome; `denotes_fields`.
* `Outcome.Converts`: an outcome is that of a text that was read; `triple_batch_converts`.
* `Run.Reported`: what a reporting batch leaves.
* **`Run.batch_reported`**: every reporting batch that ends with a status.
-/

namespace HiveScript

/-! ## Names -/

theorem Fault.Kind.isWhole_className (k : Fault.Kind) : k.className.IsWhole := by
  have hreason : ∀ r : Reason, r.name.IsWhole := by
    intro r
    cases r <;> decide
  cases k with
  | general => decide
  | fatal => decide
  | conversion reason line => exact hreason reason

/-! ## Outcomes in reports -/

namespace Outcome

/-- What a report tells of an outcome: of one that failed the fault, of one that was written its
file, and of any other one its script. -/
inductive Told (o : Outcome) : Value → Prop
  | failed {f : Fault} {name input message : Text} (fault_eq : o.result.fault = some f)
    (name_eq : o.source.toValue = .text name) (input_as : Json.ReadAs name input)
    (message_as : Json.ReadAs f.message message) :
    Told o (.object [("error", .text f.kind.className), ("input", .text input), ("line", f.line),
      ("message", .text message), ("ok", .bool false)])
  | written {t : Path} {name input output : Text} (fault_eq : o.result.fault = none)
    (target_eq : o.target = some t) (name_eq : o.source.toValue = .text name)
    (input_as : Json.ReadAs name input) (output_as : Json.ReadAs t.text output) :
    Told o (.object [("input", .text input), ("keys", .nat o.result.keys), ("ok", .bool true),
      ("output", .text output), ("values", .nat o.result.values)])
  | reported {name input script : Text} (fault_eq : o.result.fault = none)
    (target_eq : o.target = none) (name_eq : o.source.toValue = .text name)
    (input_as : Json.ReadAs name input)
    (script_as : Json.ReadAs (o.result.script.getD []) script) :
    Told o (.object [("input", .text input), ("keys", .nat o.result.keys), ("ok", .bool true),
      ("script", .text script), ("values", .nat o.result.values)])

open Json

theorem denotesField (k : Text) (hk : k.IsWhole) {height : Nat} {v v' : Value}
    (hv : Denotes height v v') : DenotesField height (k, v) (k, v') :=
  ⟨rfl, Utf16.unpaired_of_isWhole hk, hv⟩

theorem denotes_line (f : Fault) : Denotes 0 f.line f.line := by
  rw [Fault.line]
  split
  · exact denotes_int _
  · exact denotes_null

theorem denotes_className (f : Fault) :
    Denotes 0 (.text f.kind.className) (.text f.kind.className) := by
  have hsame := (readAs f.kind.className).same (Utf16.unpaired_of_isWhole f.kind.isWhole_className)
  have hdenotes := denotes_text f.kind.className
  rwa [hsame] at hdenotes

/-- **The fields of an outcome denote what is told of it.** -/
theorem denotes_fields {o : Outcome} {name : Text} (hname : o.source.toValue = .text name)
    (htarget : o.result.isOk = false → o.target = none) :
    ∃ v, o.Told v ∧ Denotes 1 (.object (o.fields o.target.isNone)) v := by
  have hinput := denotesField "input" (by decide) (denotes_text name)
  have hkeys := denotesField "keys" (by decide) (denotes_int o.result.keys)
  have hvalues := denotesField "values" (by decide) (denotes_int o.result.values)
  have hok := fun b => denotesField "ok" (by decide) (denotes_bool b)
  obtain ⟨source, ⟨script, fault⟩, target⟩ := o
  dsimp only at hname hkeys hvalues
  cases fault with
  | some f =>
    obtain rfl : target = none := htarget rfl
    have hnodup : [("error" : Text), "input", "line", "message", "ok"].Nodup := by decide
    have hall := List.Forall₂.cons (denotesField "error" (by decide) (denotes_className f))
      (.cons hinput (.cons (denotesField "line" (by decide) (denotes_line f))
        (.cons (denotesField "message" (by decide) (denotes_text f.message))
          (.cons (hok false) .nil))))
    refine ⟨_, .failed rfl hname (readAs name) (readAs f.message), ?_⟩
    simp only [fields, hname]
    refine denotes_object ?_ hall hnodup
    exact fun _ => order_failed _ _ _ _ _
  | none =>
    cases target with
    | some t =>
      have hnodup : [("input" : Text), "keys", "ok", "output", "values"].Nodup := by decide
      have hall := List.Forall₂.cons hinput (.cons hkeys (.cons (hok true)
        (.cons (denotesField "output" (by decide) (denotes_text t.text)) (.cons hvalues .nil))))
      refine ⟨_, .written rfl rfl hname (readAs name) (readAs t.text), ?_⟩
      simp only [fields, hname]
      refine denotes_object ?_ hall hnodup
      exact fun _ => order_written _ _ _ _ _
    | none =>
      have hnodup : [("input" : Text), "keys", "ok", "script", "values"].Nodup := by decide
      have hall := List.Forall₂.cons hinput (.cons hkeys (.cons (hok true)
        (.cons (denotesField "script" (by decide) (denotes_text (script.getD [])))
          (.cons hvalues .nil))))
      refine ⟨_, .reported rfl rfl hname (readAs name) (readAs (script.getD [])), ?_⟩
      simp only [fields, hname]
      refine denotes_object ?_ hall hnodup
      exact fun _ => order_reported _ _ _ _ _

/-- **A report denotes what is told of its outcomes.** -/
theorem denotes_report {os : List Outcome}
    (hname : ∀ o ∈ os, ∃ name, o.source.toValue = .text name)
    (htarget : ∀ o ∈ os, o.result.isOk = false → o.target = none) :
    ∃ inputs, List.Forall₂ Told os inputs ∧ Denotes 3 (report os)
      (.object [("inputs", .list inputs), ("ok", .bool (os.all fun o => o.result.isOk))]) := by
  have hinputs : ∃ inputs, List.Forall₂ Told os inputs ∧
      List.Forall₂ (Denotes 1) (os.map fun o => .object (o.fields o.target.isNone)) inputs := by
    induction os with
    | nil => exact ⟨[], .nil, .nil⟩
    | cons o os ih =>
      obtain ⟨⟨name, hname⟩, hnames⟩ := List.forall_mem_cons.mp hname
      obtain ⟨htarget, htargets⟩ := List.forall_mem_cons.mp htarget
      obtain ⟨inputs, htold, hdenotes⟩ := ih hnames htargets
      obtain ⟨v, hv, hv'⟩ := denotes_fields hname htarget
      exact ⟨v :: inputs, .cons hv htold, .cons hv' hdenotes⟩
  obtain ⟨inputs, htold, hdenotes⟩ := hinputs
  have hnodup : [("inputs" : Text), "ok"].Nodup := by decide
  have hall := List.Forall₂.cons (denotesField "inputs" (by decide) (denotes_list hdenotes))
    (.cons (denotesField "ok" (by decide)
      ((denotes_bool (os.all fun o => o.result.isOk)).mono (by decide))) .nil)
  refine ⟨inputs, htold, ?_⟩
  rw [report, isEmpty_failed]
  refine denotes_object ?_ hall hnodup
  exact fun _ => order_report _ _

/-- In a reporting batch no script is printed. -/
theorem allPrinted_of_reports {s : Settings} (hs : s.reports = true) (os : List Outcome) :
    allPrinted s os = [] := by
  refine List.flatMap_eq_nil_iff.mpr fun o _ => ?_
  rw [printed, Settings.printedOf, hs]
  simp

/-! ## Results -/

/-- The result of an outcome is that of a text that its source was read as. -/
def Converts (o : Outcome) : Prop :=
  ∃ text u u', (Run.readSource o.source).after u = (.ok text, u') ∧ tryConvert text = .ok o.result

/-- What was read has a name. -/
theorem Converts.exists_name {o : Outcome} (h : o.Converts) :
    ∃ name, o.source.toValue = .text name := by
  obtain ⟨text, u, u', hread, -⟩ := h
  cases hsource : o.source with
  | standardInput => exact ⟨_, rfl⟩
  | file path => exact ⟨_, rfl⟩
  | unfit v =>
    rw [hsource] at hread
    cases hread

end Outcome

namespace Run

theorem answers_convertSource (s : Settings) (source : Source) (target : Option Path) :
    Answers (convertSource s source target) Outcome.Converts := by
  have hrecorded : ∀ φ : Prop, Recorded fun _ => φ := fun _ => ⟨fun _ _ h => h⟩
  refine triple_convertSource (R := fun text _ =>
      ∃ u u', (readSource source).after u = (.ok text, u')) (hrecorded _)
    (fun _ => hrecorded _) (fun _ => hrecorded _) (fun _ => hrecorded _) (fun _ _ _ => trivial) ?_
    (fun _ _ _ _ _ => trivial) (fun _ _ _ _ _ _ _ _ => trivial) ?_ ?_
  · intro w _
    cases hread : (readSource source).after w with
    | mk r v =>
      cases r with
      | ok text => exact ⟨w, v, hread⟩
      | error e => trivial
  · rintro text result hresult - w ⟨u, u', hread⟩
    exact ⟨text, u, u', hread, hresult⟩
  · rintro text result hresult - w ⟨u, u', hread⟩
    refine ((Answers.any _).mono fun _ _ => ?_) w trivial
    exact ⟨text, u, u', hread, hresult⟩

/-- **Every outcome of a batch is that of a text that was read.** -/
theorem triple_batch_converts (s : Settings) :
    Triple (fun _ => True) (batch s) (fun ending _ => ∀ o ∈ ending.outcomes, o.Converts)
      fun _ _ => False := by
  have hall : ∀ pairs, Triple (fun _ => True) (convertAll s pairs)
      (fun r _ => ∀ o ∈ r.1, o.Converts) fun _ _ => False := by
    intro pairs
    induction pairs with
    | nil => exact Triple.pure fun _ _ => List.forall_mem_nil _
    | cons pair pairs ih =>
      obtain ⟨source, target⟩ := pair
      rw [convertAll]
      refine (triple_attempt (answers_convertSource s source target)).bind fun r => ?_
      cases r with
      | error stop => exact Triple.pure fun _ _ => List.forall_mem_nil _
      | ok o =>
        intro w ho
        refine (ih.bind fun r => Triple.pure fun _ h => ?_) w trivial
        exact List.forall_mem_cons.mpr ⟨ho, h⟩
  refine triple_batch (Q := fun _ _ => True) (R := fun r _ => ∀ o ∈ r.1, o.Converts) ?_ hall
    (fun _ _ _ h => h) fun os => ?_
  · exact (Answers.any _).mono_stop fun _ _ _ => List.forall_mem_nil _
  · exact Triple.const _ _

/-! ## Reporting batches -/

/-- What a reporting batch with a status leaves: the report and the end of its line on the output,
and the scripts in their files. -/
structure Reported (s : Settings) (w : World) (os : List Outcome) (status : Nat) (v : World)
    (document : Text) (inputs : List Value) : Prop where
  output : v.output = w.output.adding (document ++ [Point.lineFeed])
  isAscii : (document ++ [Point.lineFeed]).IsAscii
  /-- No stream refuses the report. -/
  write_eq : ∀ o : Stream, o.write (document ++ [Point.lineFeed]) =
    .ok (o.adding (document ++ [Point.lineFeed]))
  read_eq : Json.read document = .ok
    (.object [("inputs", .list inputs), ("ok", .bool (os.all fun o => o.result.isOk))])
  status_eq : status = if os.all fun o => o.result.isOk then 0 else 2
  told : List.Forall₂ Outcome.Told os inputs
  /-- There is one outcome for each source, in their order. -/
  sources_eq : s.sources = .ok (os.map (·.source))
  converts : ∀ o ∈ os, o.Converts
  /-- A file is written for each outcome that has one. -/
  files : ∃ tried, w.Follows (Outcome.allFiles s os) tried v

/-- **What a reporting batch tells is what it came to.** -/
theorem batch_reported {s : Settings} (hs : s.reports = true) {w v : World} {os : List Outcome}
    {status : Nat} (h : (batch s).after w = (.ok ⟨os, .ok status⟩, v)) :
    ∃ document inputs, Reported s w os status v document inputs := by
  have hconverts := (triple_batch_converts s).ok trivial h
  have hhistory := (triple_batch_history s w).ok rfl h
  have hfiles := hhistory.exists_follows
  have hstatus := hhistory.status_eq rfl
  have hname : ∀ o ∈ os, ∃ name, o.source.toValue = .text name :=
    fun o ho => (hconverts o ho).exists_name
  have htarget : ∀ o ∈ os, o.result.isOk = false → o.target = none := by
    intro o ho hfailed
    obtain ⟨pre, post, hsplit⟩ := List.append_of_mem ho
    obtain ⟨_, _, _, _, -, hconverted⟩ := hhistory.exists_converted hsplit
    rw [hconverted.target_eq, if_neg (by rw [hfailed]; exact nofun)]
  obtain ⟨inputs, htold, hdenotes⟩ := Outcome.denotes_report hname htarget
  cases hhistory with
  | @concluded u u' _ sources targets _ _ hsources hplan hidles hchecked hran hconcluded =>
    cases hconcluded with
    | @told _ report hreport hbecomes =>
      rw [Settings.reportText, if_pos hs] at hreport
      obtain ⟨document, hdocument, hreport⟩ := exists_of_bind_eq_ok hreport
      obtain rfl := Except.ok.inj hreport
      obtain ⟨hascii, hread⟩ := hdenotes.read (by decide) hdocument
      have hline : (document ++ [Point.lineFeed]).IsAscii := hascii.append (by decide)
      refine ⟨document, inputs, ?_, hline, fun o => o.write_of_isWhole hline.isWhole, hread,
        hstatus, htold, ?_, hconverts, hfiles⟩
      · rw [hbecomes.output, hran.output_eq, Outcome.allPrinted_of_reports hs, Stream.adding_nil,
          hidles.output]
      · have hsame : List.Forall₂ (fun pair o => o.source = pair.1) (sources.zip targets) os :=
          hran.forall₂ fun _ _ _ _ _ _ _ _ _ hconverted => hconverted.source_eq
        obtain ⟨found, hfound, hplanned⟩ := planned_of_plan hplan
        obtain rfl : sources = found := Except.ok.inj (hsources.symm.trans hfound)
        have hmap : (sources.zip targets).map Prod.fst = os.map (·.source) := by
          rw [← List.forall₂_eq_eq_eq, List.forall₂_map_left_iff, List.forall₂_map_right_iff]
          exact hsame.imp fun _ _ h => h.symm
        rw [hsources, ← hmap, List.map_fst_zip hplanned.length_eq.ge]

/-- An export and a text that is none, to be reported. -/
def mixed : Settings := [("inputs", .texts ["a.reg", "y/b.ps1"]), ("json", .bool true)]

theorem batch_reported_mixed : mixed.reports = true ∧
    ∃ os v, (batch mixed).after tray = (.ok ⟨os, .ok 2⟩, v) ∧
      ∃ document inputs, Reported mixed tray os 2 v document inputs := by
  have htold : told mixed = some ([none, none], .ok 2) := by decide +kernel
  obtain ⟨⟨os, status⟩, v, hending, -⟩ := (triple_batch_history mixed tray).exists_answer rfl
  rw [told, hending] at htold
  have hstatus : status.mapError stopText = .ok 2 := congrArg Prod.snd (Option.some.inj htold)
  cases status with
  | error e => cases hstatus
  | ok n =>
    obtain rfl : n = 2 := Except.ok.inj hstatus
    exact ⟨rfl, os, v, hending, batch_reported rfl hending⟩

end Run

end HiveScript
