import HiveScript.Proofs.Conversion.Run
import HiveScript.Proofs.Program.Plain
import HiveScript.Proofs.Run.AllOrNothing
import HiveScript.Proofs.Run.Sight

/-!
# The two ways out

A script is printed, or it is written to a file without a header. A file takes any script. An output
that takes UTF-8 in the strict form only refuses a script with halves of pairs, and then the run
fails.

* `Settings.printing`, `Settings.filing`: the settings of the two command lines; `plain_printing`,
  `plain_filing`.
* `World.Takes`: a file to which a script can be written.
* `Run.triple_deliver_file`, `Run.triple_print_whole`, `Run.triple_print_refused`: what each way
  leaves; `Run.program_filing`, `Run.program_printing_whole`, `Run.program_printing_refused`: the
  same of the runs.
* **`Run.program_destinations`**: where the two ways agree.
-/

namespace HiveScript

/-! ## The two command lines -/

namespace Argument

variable {switches : List Switch} {s : Text} {ss : List Text} {a : Argument} {as : List Argument}

theorem ofText_word (hs : s.head? ≠ some (Point.ofChar '-')) :
    ofText switches s = .ok (.operand s) := if_pos hs

theorem list_cons (hne : s ≠ dividerText) (ha : ofText switches s = .ok a)
    (hss : list switches ss = .ok as) : list switches (s :: ss) = .ok (a :: as) := by
  rw [list, if_neg hne, ha, hss]
  rfl

theorem list_cons_word (hs : s.head? ≠ some (Point.ofChar '-')) (hss : list switches ss = .ok as) :
    list switches (s :: ss) = .ok (.operand s :: as) := by
  refine list_cons ?_ (ofText_word hs) hss
  rintro rfl
  exact hs rfl

end Argument

namespace Settings

theorem put_put (s : Settings) (k : Text) (v v' : Value) : (s.put k v).put k v' = s.put k v' := by
  induction s with
  | nil => simp [put, putNamed]
  | cons e s ih =>
    rw [put, put] at ih ⊢
    by_cases he : e.1 = k
    · simp [put, putNamed, he]
    · simp [put, putNamed, he, ih]

/-- The settings of a command line with an input alone. -/
def printing (name : Text) : Settings := Catalogue.defaults.put "inputs" (.texts [name])

/-- The settings of a command line with an input and with a file for a script without a header. -/
def filing (file name : Text) : Settings :=
  ((Catalogue.defaults.put "no_header" (.bool true)).put "output" (.text file)).put "inputs"
    (.texts [name])

theorem get_printing (name : Text) {k : Text} (hinputs : Text.ofString "inputs" ≠ k) :
    (printing name).get k = Catalogue.defaults.get k := get_put_of_ne _ hinputs _

theorem get_filing (file name : Text) {k : Text} (hinputs : Text.ofString "inputs" ≠ k)
    (houtput : Text.ofString "output" ≠ k) (hheader : Text.ofString "no_header" ≠ k) :
    (filing file name).get k = Catalogue.defaults.get k := by
  rw [filing, get_put_of_ne _ hinputs, get_put_of_ne _ houtput, get_put_of_ne _ hheader]

/-- Nothing is set but what is given. -/
theorem has_printing (name : Text) {k : Text} (hinputs : Text.ofString "inputs" ≠ k)
    (hk : Catalogue.defaults.has k = false) : (printing name).has k = false := by
  rw [has, get_printing name hinputs]
  exact hk

theorem has_filing (file name : Text) {k : Text} (hinputs : Text.ofString "inputs" ≠ k)
    (houtput : Text.ofString "output" ≠ k) (hheader : Text.ofString "no_header" ≠ k)
    (hk : Catalogue.defaults.has k = false) : (filing file name).has k = false := by
  rw [has, get_filing file name hinputs houtput hheader]
  exact hk

theorem single_printing (name : Text) : (printing name).Single name where
  inputs := put_put _ _ _ _
  directory := get_printing name (by decide)
  header := get_printing name (by decide)
  reports := has_printing name (by decide) rfl
  verbose := get_printing name (by decide)

theorem single_filing (file name : Text) : (filing file name).Single name where
  inputs := put_put _ _ _ _
  directory := get_filing file name (by decide) (by decide) (by decide)
  header := get_filing file name (by decide) (by decide) (by decide)
  reports := has_filing file name (by decide) (by decide) (by decide) rfl
  verbose := get_filing file name (by decide) (by decide) (by decide)

end Settings

variable {name file : Text}

theorem plain_printing (hname : name.head? ≠ some (Point.ofChar '-')) :
    Plain [name] (.printing name) := by
  have hlist : ∀ switches, Argument.list switches [name] = .ok [.operand name] :=
    fun _ => Argument.list_cons_word hname rfl
  constructor
  · rw [Synopsis.finish, CommandLine.ofTexts, hlist]
    rfl
  · rw [Synopsis.finish, CommandLine.ofTexts, hlist]
    rfl

theorem plain_filing (hname : name.head? ≠ some (Point.ofChar '-'))
    (hfile : file.head? ≠ some (Point.ofChar '-')) :
    Plain ["--no-header", "-o", file, name] (.filing file name) := by
  have hlist : ∀ {switches : List Switch} {a b : Argument},
      Argument.ofText switches "--no-header" = .ok a → Argument.ofText switches "-o" = .ok b →
      Argument.list switches ["--no-header", "-o", file, name] =
        .ok [a, b, .operand file, .operand name] :=
    fun ha hb => Argument.list_cons (by decide) ha <| Argument.list_cons (by decide) hb <|
      Argument.list_cons_word hfile <| Argument.list_cons_word hname rfl
  constructor
  · have hunknown : Argument.ofText Catalogue.early.switches "--no-header" =
        .ok (.unknown "--no-header") := by decide +kernel
    have hunknown' : Argument.ofText Catalogue.early.switches "-o" = .ok (.unknown "-o") := by
      decide +kernel
    rw [Synopsis.finish, CommandLine.ofTexts, hlist hunknown hunknown']
    rfl
  · have hheader : Argument.ofText Catalogue.full.switches "--no-header" =
        .ok (.option ⟨Catalogue.noHeader, false, none⟩) := by decide +kernel
    have houtput : Argument.ofText Catalogue.full.switches "-o" =
        .ok (.option ⟨Catalogue.output, true, none⟩) := by decide +kernel
    have hread : CommandLine.read Catalogue.full.switches .before
        [.option ⟨Catalogue.noHeader, false, none⟩, .option ⟨Catalogue.output, true, none⟩,
          .operand file, .operand name] =
        ⟨[⟨Catalogue.noHeader, none⟩, ⟨Catalogue.output, some (.text file)⟩],
          .ok ⟨[name], []⟩⟩ := by
      simp only [CommandLine.read, CommandLine.openOption]
      rfl
    have hline : CommandLine.ofTexts Catalogue.full.switches Catalogue.full.operands.isSome
        ["--no-header", "-o", file, name] = .ok ⟨[⟨Catalogue.noHeader, none⟩,
          ⟨Catalogue.output, some (.text file)⟩], .ok ⟨[name], []⟩⟩ := by
      rw [CommandLine.ofTexts, hlist hheader houtput]
      exact congrArg Except.ok hread
    rw [Synopsis.finish, hline, Settings.filing]
    generalize Catalogue.defaults = s
    rfl

/-! ## The file -/

/-- A command line can name a file at which nothing is, and some octets can be written to it. -/
structure World.Takes (w : World) (file : Text) (target : Path) (content : Bytes) : Prop where
  word : file.head? ≠ some (Point.ofChar '-')
  ne_nil : file ≠ []
  path : Settings.pathIn w.home (.text file) = .ok target
  free : w.disk.Lacks target.text
  writable : Run.Writable w.disk target content

/-- The file that settings of one input name is the target. -/
theorem Settings.Single.plan {s : Settings} {home : Text} {target : Path} (h : s.Single name)
    (houtput : s.get "output" = .text file) (hfile : file ≠ [])
    (hname : name.head? ≠ some (Point.ofChar '-')) (hpath : pathIn home (.text file) = .ok target) :
    s.plan home = .ok [some target] := by
  have hhas : s.has "output" = true := by
    rw [has, houtput]
    simpa [Value.isTrue, Scalar.isTrue] using hfile
  rw [Settings.plan, if_pos hhas, h.sources hname, houtput, hpath]
  rfl

theorem Settings.get_output_filing (file name : Text) :
    (filing file name).get "output" = .text file := by
  rw [filing, get_put_of_ne _ (by decide), get_put_self]

theorem Settings.plan_printing {home : Text} (hname : name.head? ≠ some (Point.ofChar '-')) :
    (printing name).plan home = .ok [none] := by
  have hfile : (printing name).has "output" = false := has_printing name (by decide) rfl
  have hdirectory : (printing name).has "output_dir" = false := has_printing name (by decide) rfl
  rw [plan, hfile, hdirectory, (single_printing name).sources hname]
  rfl

namespace Run

variable {w : World} {script : Text}

theorem deliver_printing (name script : Text) :
    deliver (.printing name) none script = print script := by
  have hheader : (Settings.printing name).has "stdout_header" = false :=
    Settings.has_printing name (by decide) rfl
  rw [deliver, (Settings.single_printing name).reports, printScript, hheader]
  rfl

/-- What a script becomes is written to a file that is not there. -/
theorem triple_writeScript_fresh {s : Settings} {target : Path} {header : Option Text}
    {content : Bytes} (hheader : s.headerText = .ok header)
    (hcontent : Script.encode (s.has "bom") (Script.layout header s.newline script) = content)
    (hfree : w.disk.Lacks target.text) (hwritable : Writable w.disk target content) :
    Triple (fun v => w.Murmurs v) (writeScript s target script)
      (fun _ v => World.Murmurs { w with disk := writtenDisk w target content } v)
      fun _ _ => False := by
  have hcheck : Triple (fun v => w.Murmurs v) (checkTarget s target)
      (fun _ v => w.Murmurs v) fun _ _ => False := by
    intro v hv
    refine ((triple_checkTarget (recorded_murmurs w) _ target hv).mono (fun _ h => h) ?_ ?_) v rfl
    · rintro _ _ ⟨rfl, -⟩
      exact hv
    · rintro e u ⟨hunchecked, -⟩
      exact hunchecked.not_lacks (hv.disk ▸ hfree)
  have hwrite : Triple (fun v => w.Murmurs v) (writeAtomically target content)
      (fun _ v => World.Murmurs { w with disk := writtenDisk w target content } v)
      fun _ _ => False := by
    intro v hv
    have hwritable' : Writable v.disk target content := hv.disk ▸ hwritable
    obtain ⟨u, hu, hdisk, x, q, ⟨-, hx⟩, hreplaced⟩ := hwritable'.exists_placed
    rw [hu]
    have heq := hreplaced.eq
    rw [hx] at heq
    refine ⟨hdisk.trans (writtenDisk_congr hv.disk target content), ?_, ?_, ?_⟩
    · rw [heq]
      exact hv.home
    · rw [heq]
      exact hv.output
    · -- A sink that does not go to a file is not detached.
      rw [heq]
      intro s hs
      obtain ⟨t, ht, rfl⟩ := List.mem_map.mp hs
      obtain ⟨channel, hchannel⟩ := hv.console t ht
      rw [Sink.detach, hchannel]
      exact ⟨channel, hchannel⟩
  rw [writeScript, hheader]
  refine hcheck.bind fun _ => ?_
  change Triple _ (dieOnRefusal _ (writeAtomically target (Script.encode _ _))) _ _
  rw [hcontent]
  exact triple_dieOnRefusal hwrite (fun _ => ⟨fun _ _ h => h⟩) (fun _ _ h => h.elim)
    fun _ _ h => h.elim

/-- **A file takes any script.** -/
theorem triple_deliver_file {target : Path} (h : w.Takes file target (Utf8.encode script))
    (name : Text) :
    Triple (fun v => w.Murmurs v) (deliver (.filing file name) (some target) script)
      (fun _ v =>
        World.Murmurs { w with disk := writtenDisk w target (Utf8.encode script) } v)
      fun _ _ => False := by
  have hheader : (Settings.filing file name).headerText = .ok none := by
    have hnone : (Settings.filing file name).has "no_header" = true := by
      rw [Settings.has, Settings.filing, Settings.get_put_of_ne _ (by decide),
        Settings.get_put_of_ne _ (by decide), Settings.get_put_self]
      rfl
    rw [Settings.headerText, Settings.header, hnone]
    rfl
  have hcrlf : (Settings.filing file name).has "crlf" = false :=
    Settings.has_filing file name (by decide) (by decide) (by decide) rfl
  have hbom : (Settings.filing file name).has "bom" = false :=
    Settings.has_filing file name (by decide) (by decide) (by decide) rfl
  refine triple_writeScript_fresh hheader ?_ h.free h.writable
  rw [Settings.newline, hcrlf, hbom]
  rfl

/-! ## The output -/

/-- A script without halves of pairs is printed. -/
theorem triple_print_whole (h : ∀ p ∈ script, p.isSurrogate = false) (name : Text) :
    Triple (fun v => w.Murmurs v) (deliver (.printing name) none script)
      (fun _ v => World.Murmurs { w with output := w.output.adding script } v)
      fun _ _ => False := by
  rw [deliver_printing]
  intro v hv
  refine ((triple_print script).mono (fun _ h => h) ?_ ?_) v rfl
  · rintro _ _ rfl
    exact ⟨hv.disk, hv.home, congrArg (Stream.adding · script) hv.output, hv.console⟩
  · rintro e u ⟨rfl, f, hf, -⟩
    obtain ⟨o, ho⟩ := Stream.exists_write_eq_ok (s := u.output)
      fun _ => Utf8.surrogateRun?_eq_none_iff.mpr h
    cases hf.symm.trans ho

/-- A script with halves of pairs is not printed where they have no strict form. -/
theorem triple_print_refused (hstrict : w.output.policy = .strict)
    (h : ∃ p ∈ script, p.isSurrogate = true) (name : Text) :
    Triple (fun v => w.Murmurs v) (deliver (.printing name) none script) (fun _ _ => False)
      fun e v => (∃ f, e = .failure f) ∧ w.Murmurs v := by
  have hrun : Utf8.surrogateRun? script ≠ none := by
    obtain ⟨p, hp, hsurrogate⟩ := h
    intro hnone
    cases hsurrogate.symm.trans (Utf8.surrogateRun?_eq_none_iff.mp hnone p hp)
  obtain ⟨run, hrun⟩ := Option.ne_none_iff_exists'.mp hrun
  rw [deliver_printing]
  refine Triple.get.bind fun v => ?_
  rintro _ ⟨rfl, hv⟩
  rw [Stream.write, hv.output, hstrict, hrun]
  exact ⟨⟨_, rfl⟩, hv⟩

/-! ## Both -/

theorem program_filing {target : Path} {content : Bytes} (hw : w.Offers name content)
    (hfile : w.Takes file target (Utf8.encode script))
    (hscript : tryConvert (decodeExport content) = .ok ⟨some script, none⟩) :
    ∃ v, (program ["--no-header", "-o", file, name]).after w = (.ok 0, v) ∧
      v.disk.read target.text = .ok (Utf8.encode script) ∧ v.output = w.output := by
  have hrun := triple_program_plain (G := fun _ => False) (plain_filing hw.word hfile.word)
    (Settings.single_filing file name) hw.provides hscript
    ((Settings.single_filing file name).plan (Settings.get_output_filing file name) hfile.ne_nil
      hw.word hfile.path)
    (fun t ht => Option.some.inj ht ▸ hfile.free) (recorded_murmurs _) ⟨fun _ _ h => h⟩
    fun _ => (triple_deliver_file hfile name).mono_stop fun _ _ h => h.elim
  obtain ⟨n, v, hafter, ⟨rfl, hv⟩ | ⟨-, h⟩⟩ := hrun.exists_answer rfl
  · replace hv : World.Murmurs _ v := hv
    exact ⟨v, hafter, hv.disk ▸ hfile.writable.read_writtenDisk, hv.output⟩
  · exact h.elim

theorem program_printing_whole {content : Bytes} (hw : w.Offers name content)
    (hscript : tryConvert (decodeExport content) = .ok ⟨some script, none⟩)
    (h : ∀ p ∈ script, p.isSurrogate = false) :
    ∃ v, (program [name]).after w = (.ok 0, v) ∧ v.disk = w.disk ∧
      v.output = w.output.adding script := by
  have hrun := triple_program_plain (G := fun _ => False) (plain_printing hw.word)
    (Settings.single_printing name) hw.provides hscript (Settings.plan_printing hw.word) nofun
    (recorded_murmurs { w with output := w.output.adding script }) ⟨fun _ _ h => h⟩
    fun _ => (triple_print_whole h name).mono_stop fun _ _ h => h.elim
  obtain ⟨n, v, hafter, ⟨rfl, hv⟩ | ⟨-, h⟩⟩ := hrun.exists_answer rfl
  · replace hv : World.Murmurs _ v := hv
    exact ⟨v, hafter, hv.disk, hv.output⟩
  · exact h.elim

theorem program_printing_refused {content : Bytes} (hw : w.Offers name content)
    (hscript : tryConvert (decodeExport content) = .ok ⟨some script, none⟩)
    (hstrict : w.output.policy = .strict) (h : ∃ p ∈ script, p.isSurrogate = true) :
    ∃ v, (program [name]).after w = (.ok 1, v) ∧ v.disk = w.disk ∧ v.output = w.output := by
  have hrun := triple_program_plain (D := fun _ => False) (plain_printing hw.word)
    (Settings.single_printing name) hw.provides hscript (Settings.plan_printing hw.word) nofun
    ⟨fun _ _ h => h⟩ (recorded_murmurs w) fun _ => triple_print_refused hstrict h name
  obtain ⟨n, v, hafter, ⟨-, h⟩ | ⟨rfl, hv⟩⟩ := hrun.exists_answer rfl
  · exact False.elim h
  · exact ⟨v, hafter, hv.disk, hv.output⟩

/-- **The two ways out.**

An export that can be converted is written to a fresh file, octet for octet as the general form of
its script. On a strict output the same octets are printed if and only if the script has no half of
a pair; otherwise nothing is printed, and the run ends with 1. -/
theorem program_destinations {w : World} {name file script : Text} {content : Bytes} {target : Path}
    (hw : w.Offers name content) (hfile : w.Takes file target (Utf8.encode script))
    (hscript : tryConvert (decodeExport content) = .ok ⟨some script, none⟩)
    (hstrict : w.output.policy = .strict) (hempty : w.output.written = []) :
    ∃ v n u, (program ["--no-header", "-o", file, name]).after w = (.ok 0, v) ∧
      v.disk.read target.text = .ok (Utf8.encode script) ∧ v.output = w.output ∧
      (program [name]).after w = (.ok n, u) ∧ u.disk = w.disk ∧
      (n = 0 ∧ u.output.octets = Utf8.encode script ↔ ∀ p ∈ script, p.isSurrogate = false) ∧
      ((∃ p ∈ script, p.isSurrogate = true) → n = 1 ∧ u.output = w.output) := by
  obtain ⟨v, hfiled, hread, hquiet⟩ := program_filing hw hfile hscript
  by_cases hwhole : ∀ p ∈ script, p.isSurrogate = false
  · obtain ⟨u, hprinted, hdisk, houtput⟩ := program_printing_whole hw hscript hwhole
    have hoctets : u.output.octets = Utf8.encode script := by
      rw [houtput, Stream.octets, Stream.adding, hstrict, hempty]
      rfl
    refine ⟨v, 0, u, hfiled, hread, hquiet, hprinted, hdisk,
      iff_of_true ⟨rfl, hoctets⟩ hwhole, ?_⟩
    rintro ⟨p, hp, hsurrogate⟩
    cases hsurrogate.symm.trans (hwhole p hp)
  · have hhalf : ∃ p ∈ script, p.isSurrogate = true := by simpa using hwhole
    obtain ⟨u, hprinted, hdisk, houtput⟩ := program_printing_refused hw hscript hstrict hhalf
    exact ⟨v, 1, u, hfiled, hread, hquiet, hprinted, hdisk,
      iff_of_false (fun h => absurd h.1 Nat.one_ne_zero) hwhole, fun _ => ⟨rfl, houtput⟩⟩

/-- An export with half of a pair in it. -/
def halvedExport : Bytes := Utf8.encode "[HKEY_USERS]\nn=hex(2):00,d8"

/-- A world with this export. -/
def halved : World := { tray with disk := ⟨[], [(["a.reg"], .file halvedExport)]⟩ }

def halvedScript : Text :=
  Text.ofString "New-Item -Path 'HKU:' -Force\nSet-ItemProperty -Path 'HKU:' -Name 'n' -Value \"" ++
    [0xD800] ++ Text.ofString "\" -Type ExpandString\n"

theorem program_destinations_halved :
    halved.Offers "a.reg" halvedExport ∧
      halved.Takes "o.ps1" (.ofText "o.ps1") (Utf8.encode halvedScript) ∧
      ∃ v u, (program ["--no-header", "-o", "o.ps1", "a.reg"]).after halved = (.ok 0, v) ∧
        v.disk.read "o.ps1" = .ok (Utf8.encode halvedScript) ∧
        (program ["a.reg"]).after halved = (.ok 1, u) ∧ u.output = halved.output := by
  have hoffers : halved.Offers "a.reg" halvedExport :=
    ⟨by decide, by decide, rfl, by decide +kernel⟩
  have hwritten : ((writeAtomically (.ofText "o.ps1") (Utf8.encode halvedScript)).after
      halved).1.isOk = true := by decide +kernel
  have hwritable : Writable halved.disk (.ofText "o.ps1") (Utf8.encode halvedScript) := by
    cases h : (writeAtomically (.ofText "o.ps1") (Utf8.encode halvedScript)).after halved with
    | mk r v =>
      rw [h] at hwritten
      cases r with
      | ok a => exact ⟨halved, v, rfl, h⟩
      | error e => cases hwritten
  have htakes : halved.Takes "o.ps1" (.ofText "o.ps1") (Utf8.encode halvedScript) :=
    ⟨by decide, by decide, rfl, .inl (by decide +kernel), hwritable⟩
  have hconvert : HiveScript.convert (decodeExport halvedExport) = .ok halvedScript :=
    Conversion.convert_eq_ok_of_toOption (by decide +kernel)
  have hscript : tryConvert (decodeExport halvedExport) = .ok ⟨some halvedScript, none⟩ := by
    rw [tryConvert, hconvert]
  obtain ⟨v, n, u, hfiled, hread, -, hprinted, -, -, hhalf⟩ :=
    program_destinations hoffers htakes hscript rfl rfl
  obtain ⟨rfl, houtput⟩ := hhalf ⟨0xD800, by decide +kernel, by decide⟩
  exact ⟨hoffers, htakes, v, u, hfiled, hread, hprinted, houtput⟩

/-- What is written to a file is not printed. -/
theorem program_destinations_ne :
    ((program ["--no-header", "-o", "o.ps1", "a.reg"]).after halved).1.toOption = some 0 ∧
      ((program ["--no-header", "-o", "o.ps1", "a.reg"]).after halved).2.disk.read "o.ps1" =
        .ok (Utf8.encode halvedScript) ∧
      ((program ["a.reg"]).after halved).1.toOption = some 1 ∧
      ((program ["a.reg"]).after halved).2.output.octets = [] := by
  refine ⟨?_, ?_, ?_, ?_⟩
  · decide +kernel
  · decide +kernel
  · decide +kernel
  · decide +kernel

end Run

end HiveScript
