import HiveScript.Program.Single
import HiveScript.Proofs.Conversion.Refusal
import HiveScript.Proofs.Encoding.Exports
import HiveScript.Proofs.Program.Destinations

/-!
# The small program

The small program and a run that is told to write paired line ends and a mark do the same to the
disk, and end with the same status. A run takes a tilde at the beginning of a path for the home
directory, which the small program does not.

* `Settings.marking`: the settings of that run; `plain_marking`.
* `World.Awaits`: a file that can be named as the target of both.
* `Run.program_marking`, `Run.single_ends`: what either of them does.
* **`Run.single_agrees`**: both do the same.
-/

namespace HiveScript

/-! ## The command line -/

namespace Settings

/-- The settings of a command line with an input, and with a file for a script with paired line ends
and a mark. -/
def marking (file name : Text) : Settings :=
  (((Catalogue.defaults.put "crlf" (.bool true)).put "bom" (.bool true)).put "output"
    (.text file)).put "inputs" (.texts [name])

variable (file name : Text)

theorem get_marking {k : Text} (hk : k ∉ ["inputs", "output", "bom", "crlf"].map Text.ofString) :
    (marking file name).get k = Catalogue.defaults.get k := by
  simp only [List.map_cons, List.map_nil, List.mem_cons, List.not_mem_nil, or_false, not_or] at hk
  obtain ⟨hinputs, houtput, hbom, hcrlf⟩ := hk
  rw [marking, get_put_of_ne _ (Ne.symm hinputs), get_put_of_ne _ (Ne.symm houtput),
    get_put_of_ne _ (Ne.symm hbom), get_put_of_ne _ (Ne.symm hcrlf)]

theorem single_marking : (marking file name).Single name where
  inputs := put_put _ _ _ _
  directory := get_marking file name (by decide)
  header := get_marking file name (by decide)
  reports := by
    rw [reports, has, get_marking file name (by decide)]
    rfl
  verbose := get_marking file name (by decide)

theorem get_output_marking : (marking file name).get "output" = .text file := by
  rw [marking, get_put_of_ne _ (by decide), get_put_self]

theorem newline_marking : (marking file name).newline = "\r\n" := by
  have hcrlf : (marking file name).has "crlf" = true := by
    rw [has, marking, get_put_of_ne _ (by decide), get_put_of_ne _ (by decide),
      get_put_of_ne _ (by decide), get_put_self]
    rfl
  rw [newline, if_pos hcrlf]

theorem bom_marking : (marking file name).has "bom" = true := by
  rw [has, marking, get_put_of_ne _ (by decide), get_put_of_ne _ (by decide), get_put_self]
  rfl

theorem headerText_marking :
    (marking file name).headerText = .ok (some Script.defaultHeader) := by
  have hnone : (marking file name).has "no_header" = false := by
    rw [has, get_marking file name (by decide)]
    rfl
  have hgiven : (marking file name).has "header" = false := by
    rw [has, get_marking file name (by decide)]
    rfl
  rw [headerText, header, hnone, hgiven]
  rfl

end Settings

variable {name file : Text}

theorem plain_marking (hname : name.head? ≠ some (Point.ofChar '-'))
    (hfile : file.head? ≠ some (Point.ofChar '-')) :
    Plain ["--crlf", "--bom", "-o", file, name] (.marking file name) := by
  have hlist : ∀ {switches : List Switch} {a b c : Argument},
      Argument.ofText switches "--crlf" = .ok a → Argument.ofText switches "--bom" = .ok b →
      Argument.ofText switches "-o" = .ok c →
      Argument.list switches ["--crlf", "--bom", "-o", file, name] =
        .ok [a, b, c, .operand file, .operand name] :=
    fun ha hb hc => Argument.list_cons (by decide) ha <| Argument.list_cons (by decide) hb <|
      Argument.list_cons (by decide) hc <| Argument.list_cons_word hfile <|
      Argument.list_cons_word hname rfl
  constructor
  · have hunknown : ∀ s ∈ ["--crlf", "--bom", "-o"].map Text.ofString,
        Argument.ofText Catalogue.early.switches s = .ok (.unknown s) := by decide +kernel
    rw [Synopsis.finish, CommandLine.ofTexts, hlist (hunknown _ (by decide))
      (hunknown _ (by decide)) (hunknown _ (by decide))]
    rfl
  · have hcrlf : Argument.ofText Catalogue.full.switches "--crlf" =
        .ok (.option ⟨Catalogue.crlf, false, none⟩) := by decide +kernel
    have hbom : Argument.ofText Catalogue.full.switches "--bom" =
        .ok (.option ⟨Catalogue.bom, false, none⟩) := by decide +kernel
    have houtput : Argument.ofText Catalogue.full.switches "-o" =
        .ok (.option ⟨Catalogue.output, true, none⟩) := by decide +kernel
    have hread : CommandLine.read Catalogue.full.switches .before
        [.option ⟨Catalogue.crlf, false, none⟩, .option ⟨Catalogue.bom, false, none⟩,
          .option ⟨Catalogue.output, true, none⟩, .operand file, .operand name] =
        ⟨[⟨Catalogue.crlf, none⟩, ⟨Catalogue.bom, none⟩,
          ⟨Catalogue.output, some (.text file)⟩], .ok ⟨[name], []⟩⟩ := by
      simp only [CommandLine.read, CommandLine.openOption]
      rfl
    have hline : CommandLine.ofTexts Catalogue.full.switches Catalogue.full.operands.isSome
        ["--crlf", "--bom", "-o", file, name] = .ok ⟨[⟨Catalogue.crlf, none⟩,
          ⟨Catalogue.bom, none⟩, ⟨Catalogue.output, some (.text file)⟩],
          .ok ⟨[name], []⟩⟩ := by
      rw [CommandLine.ofTexts, hlist hcrlf hbom houtput]
      exact congrArg Except.ok hread
    rw [Synopsis.finish, hline, Settings.marking]
    generalize Catalogue.defaults = s
    rfl

/-! ## The target -/

/-- A path that begins with no tilde is not looked for in a home directory. -/
theorem Path.expandHome_eq_self {p : Path} (h : p.text.head? ≠ some (Point.ofChar '~'))
    (home : Text) : p.expandHome home = .ok p := by
  obtain ⟨root, names⟩ := p
  match root, names with
  | _ :: _, _ => rfl
  | [], [] => rfl
  | [], [] :: _ => rfl
  | [], (a :: n) :: rest =>
    have ha : a ≠ Point.ofChar '~' := by
      rintro rfl
      refine h ?_
      cases rest <;> rfl
    have hwhole : a :: n ≠ [Point.ofChar '~'] := fun he => ha (List.cons.inj he).1
    have hhead : (a :: n).head? ≠ some (Point.ofChar '~') := fun he => ha (Option.some.inj he)
    rw [expandHome]
    dsimp only
    rw [if_neg hwhole, if_neg hhead]

/-- A command line can name a file at which nothing is, and which is in nobody's home directory by
its name. -/
structure World.Awaits (w : World) (file : Text) : Prop where
  word : file.head? ≠ some (Point.ofChar '-')
  ne_nil : file ≠ []
  home : (Path.ofText file).text.head? ≠ some (Point.ofChar '~')
  fresh : ∀ n, w.disk.stat (Path.ofText file).text ≠ .ok n

/-- What both programs write. -/
def Result.marked (result : Result) : Bytes :=
  Script.encode true
    (Script.layout (some Script.defaultHeader) "\r\n" (result.script.getD []))

namespace Run

variable {w : World} {content : Bytes} {result : Result}

/-- What is left of the disk. -/
def leftDisk (w : World) (file : Text) (result : Result) : Disk :=
  match result.isOk with
  | true => writtenDisk w (.ofText file) result.marked
  | false => w.disk

section

variable (hw : w.Provides name content)
  (hresult : tryConvert (decodeExport content) = .ok result)
  (hwritable : Writable w.disk (.ofText file) result.marked)

include hw hresult hwritable

/-- **What the run does.** -/
theorem program_marking (hfile : w.Awaits file) :
    ∃ v, (program ["--crlf", "--bom", "-o", file, name]).after w = (.ok result.status, v) ∧
      v.disk = leftDisk w file result := by
  have hs := Settings.single_marking file name
  have hpath : Settings.pathIn w.home (.text file) = .ok (.ofText file) :=
    Path.expandHome_eq_self hfile.home w.home
  have hplan := hs.plan (Settings.get_output_marking file name) hfile.ne_nil hw.word hpath
  have hfree : w.disk.Lacks (Path.ofText file).text := hwritable.lacks hfile.fresh
  have hcontent : Script.encode ((Settings.marking file name).has "bom")
      (Script.layout (some Script.defaultHeader) (Settings.marking file name).newline
        (result.script.getD [])) = result.marked := by
    rw [Settings.bom_marking, Settings.newline_marking]
    rfl
  have hdeliver := triple_writeScript_fresh (Settings.headerText_marking file name) hcontent hfree
    hwritable
  have hrun := triple_program_plain (G := fun _ => False) (plain_marking hw.word hfile.word) hs hw
    hresult hplan (fun t ht => Option.some.inj ht ▸ hfree) (recorded_murmurs _)
    ⟨fun _ _ h => h⟩ fun _ => hdeliver.mono_stop fun _ _ h => h.elim
  obtain ⟨n, v, hafter, ⟨rfl, hv⟩ | ⟨-, h⟩⟩ := hrun.exists_answer rfl
  · refine ⟨v, hafter, ?_⟩
    rw [World.Left] at hv
    rw [leftDisk]
    cases hok : result.isOk with
    | true =>
      rw [hok] at hv
      exact hv.disk
    | false =>
      rw [hok] at hv
      exact hv.disk
  · exact h.elim

end

/-! ## What the small program does -/

/-- The number of the line in question can be told, if the export is not too long for that. -/
theorem exists_display?_line (hsize : content.length + 1 < Numeral.limit)
    (hresult : tryConvert (decodeExport content) = .ok result) {f : Fault}
    (hf : result.fault = some f) : ∃ t, f.line.display? = some t := by
  rw [tryConvert] at hresult
  split at hresult
  · obtain rfl := Except.ok.inj hresult
    cases hf
  · next r hr =>
    obtain rfl := Except.ok.inj hresult
    obtain rfl := Option.some.inj hf
    have hline := Conversion.line_le_of_convert_eq_rejected hr
    have hlength := length_decodeExport_le content
    obtain ⟨reason, line⟩ := r
    cases line with
    | none => exact ⟨_, rfl⟩
    | some n =>
      have hn : n < Numeral.limit :=
        ((hline n rfl).trans (Nat.succ_le_succ hlength)).trans_lt hsize
      exact ⟨_, Value.display?_nat hn⟩
  · cases hresult

/-- What is told to a stream that takes any text leaves the disk as it is. -/
theorem triple_tell (level : Level) (t : Text) :
    Triple (fun v => v.messages.policy ≠ .strict ∧ v.disk = w.disk) (tell level t)
      (fun _ v => v.disk = w.disk) fun _ _ => False := by
  refine Triple.get.bind fun v => ?_
  rintro _ ⟨rfl, hv, hdisk⟩
  obtain ⟨s, hs⟩ := Stream.exists_write_eq_ok (s := v.messages)
    (t := level.name ++ " - " ++ t ++ [Point.lineFeed]) fun h => absurd h hv
  rw [hs]
  exact hdisk

section

variable (hw : w.Provides name content)
  (hresult : tryConvert (decodeExport content) = .ok result)
  (hwritable : Writable w.disk (.ofText file) result.marked)
  (hmessages : w.messages.policy ≠ .strict) (hsize : content.length + 1 < Numeral.limit)

include hw hresult hwritable hmessages hsize

/-- The conversion of a file, if what is to be told about a fault can be told. -/
theorem triple_convertFile :
    Triple (fun v => v = w) (convertFile (.ofText name) (.ofText file))
      (fun converted v => converted = result.isOk ∧ v.disk = leftDisk w file result)
      fun _ _ => False := by
  have hknown : ofExcept (Except.ok result) = pure result := rfl
  refine (triple_readExport_provided hw fun _ hv => congrArg World.disk hv).bind fun text => ?_
  rintro v ⟨rfl, rfl⟩
  rw [hresult, hknown, pure_bind]
  refine (?_ : Triple (fun u => u = v) _ _ _) v rfl
  cases hfault : result.fault with
  | some f =>
    obtain ⟨line, hdisplay⟩ := exists_display?_line hsize hresult hfault
    have hok : result.isOk = false := by rw [Result.isOk, hfault]; rfl
    have hshown : display f.line = pure line := by rw [display, hdisplay]; rfl
    dsimp only
    rw [hok, hshown, pure_bind, leftDisk, hok]
    refine ((triple_tell Level.error _).mono_before ?_).bind fun _ =>
      Triple.pure fun u hu => ⟨rfl, hu⟩
    rintro _ rfl
    exact ⟨hmessages, rfl⟩
  | none =>
    have hok : result.isOk = true := by rw [Result.isOk, hfault]; rfl
    obtain ⟨u, hu, hdisk, x, q, ⟨-, hx⟩, hreplaced⟩ := hwritable.exists_placed
    have hwritten : Triple (fun u => u = v)
        (writeAtomically (.ofText file) (Script.encode true
          (Script.layout (some Script.defaultHeader) "\r\n" (result.script.getD []))))
        (fun _ v => v = u) fun _ _ => False := by
      rintro _ rfl
      rw [Result.marked] at hu
      rw [hu]
      rfl
    have hpolicy : u.messages.policy ≠ .strict := by
      rw [hreplaced.eq, hx]
      exact hmessages
    dsimp only
    rw [hok, leftDisk, hok, ← hdisk]
    refine hwritten.bind fun _ => ((triple_tell Level.info _).mono_before ?_).bind fun _ =>
      Triple.pure fun v hv => ⟨rfl, hv⟩
    rintro _ rfl
    exact ⟨hpolicy, rfl⟩

/-- **What the small program does.** -/
theorem single_ends :
    ∃ u, (single [name, file]).after w = (.error (.exit (.code result.status)), u) ∧
      u.disk = leftDisk w file result := by
  have hconvert := triple_convertFile hw hresult hwritable hmessages hsize
  have hsingle : Triple (fun v => v = w) (single [name, file]) (fun _ _ => False)
      fun e u => e = .exit (.code result.status) ∧ u.disk = leftDisk w file result := by
    refine (hconvert.mono_stop fun _ _ h => h.elim).bind fun converted =>
      Triple.throw fun u ⟨hconverted, hu⟩ => ⟨?_, hu⟩
    rw [hconverted, Result.status]
    cases result.isOk <;> rfl
  have hended := hsingle w rfl
  cases hafter : (single [name, file]).after w with
  | mk r u =>
    rw [hafter] at hended
    cases r with
    | ok _ => exact hended.elim
    | error e =>
      obtain ⟨rfl, hu⟩ := hended
      exact ⟨u, rfl, hu⟩

end

/-! ## Both -/

/-- **The small program and the run do the same.** Both end with 0 and the octets of the script in
the file, or with 2 and nothing written. The stream for messages takes any text, and no number of a
line of the export is too long to be written to it. -/
theorem single_agrees {w : World} {name file : Text} {content : Bytes} {result : Result}
    (hw : w.Provides name content) (hfile : w.Awaits file)
    (hresult : tryConvert (decodeExport content) = .ok result)
    (hwritable : Writable w.disk (.ofText file) result.marked)
    (hmessages : w.messages.policy ≠ .strict) (hsize : content.length + 1 < Numeral.limit) :
    ∃ n v u, (program ["--crlf", "--bom", "-o", file, name]).after w = (.ok n, v) ∧
      (single [name, file]).after w = (.error (.exit (.code n)), u) ∧ v.disk = u.disk ∧
      (result.isOk = true ∧ n = 0 ∧ v.disk.read (Path.ofText file).text = .ok result.marked ∨
        result.isOk = false ∧ n = 2 ∧ v.disk = w.disk) := by
  obtain ⟨v, hprogram, hv⟩ := program_marking hw hresult hwritable hfile
  obtain ⟨u, hsingle, hu⟩ := single_ends hw hresult hwritable hmessages hsize
  refine ⟨result.status, v, u, hprogram, hsingle, hv.trans hu.symm, ?_⟩
  rw [hv, leftDisk, Result.status]
  cases hok : result.isOk with
  | true => exact .inl ⟨rfl, rfl, hwritable.read_writtenDisk⟩
  | false => exact .inr ⟨rfl, rfl, rfl⟩

/-- The tray, with a stream for messages that takes any text. -/
def lectern : World := { tray with messages := ⟨.escaping (.utf8 false), false, []⟩ }

/-- The first export of the lectern. -/
def lecternExport : Bytes := Utf8.encode "[HKEY_USERS\\A]\nx=1"

/-- What it is converted to. -/
def lecternScript : Text :=
  Text.ofString "New-Item -Path 'HKU:\\A' -Force\n" ++
    Text.ofString "Set-ItemProperty -Path 'HKU:\\A' -Name 'x' -Value '1' -Type String\n"

theorem single_agrees_lectern :
    lectern.Provides "a.reg" lecternExport ∧ lectern.Awaits "o.ps1" ∧
      ∃ v u, (program ["--crlf", "--bom", "-o", "o.ps1", "a.reg"]).after lectern = (.ok 0, v) ∧
        (single ["a.reg", "o.ps1"]).after lectern = (.error (.exit (.code 0)), u) ∧
        v.disk = u.disk ∧
        v.disk.read "o.ps1" = .ok (Result.marked ⟨some lecternScript, none⟩) := by
  have hw : lectern.Provides "a.reg" lecternExport := ⟨by decide, rfl, by decide +kernel⟩
  have hlacks : lectern.disk.stat "o.ps1" = .error .noEntry := by decide +kernel
  have hfile : lectern.Awaits "o.ps1" :=
    ⟨by decide, by decide, by decide, fun n hn => nomatch hlacks.symm.trans hn⟩
  have hconvert : HiveScript.convert (decodeExport lecternExport) = .ok lecternScript :=
    Conversion.convert_eq_ok_of_toOption (by decide +kernel)
  have hresult : tryConvert (decodeExport lecternExport) = .ok ⟨some lecternScript, none⟩ := by
    rw [tryConvert, hconvert]
  have hwritable : Writable lectern.disk (.ofText "o.ps1")
      (Result.marked ⟨some lecternScript, none⟩) := Writable.of_isOk (by decide +kernel)
  obtain ⟨n, v, u, hprogram, hsingle, hdisk, ⟨-, rfl, hread⟩ | ⟨hfailed, -⟩⟩ :=
    single_agrees hw hfile hresult hwritable (by decide) (by decide +kernel)
  · exact ⟨hw, hfile, v, u, hprogram, hsingle, hdisk, hread⟩
  · cases hfailed

/-- A path that begins with a tilde, behind a dot. -/
def tilded : Text := "./~/o.ps1"

/-- It leads the run to the home directory, which is the root here, and the small program to a
directory of that name. -/
theorem single_not_agrees :
    tilded.head? ≠ some (Point.ofChar '~') ∧ lectern.disk.stat tilded = .error .noEntry ∧
      ((program ["--crlf", "--bom", "-o", tilded, "a.reg"]).after lectern).1.toOption = some 0 ∧
      ((program ["--crlf", "--bom", "-o", tilded, "a.reg"]).after lectern).2.disk.read "/o.ps1" =
        .ok (Result.marked ⟨some lecternScript, none⟩) ∧
      ((program ["--crlf", "--bom", "-o", tilded, "a.reg"]).after lectern).2.disk.read tilded =
        .error .noEntry ∧
      ((single ["a.reg", tilded]).after lectern).1.mapError stopText =
        .error (Text.ofString "0") ∧
      ((single ["a.reg", tilded]).after lectern).2.disk.read tilded =
        .ok (Result.marked ⟨some lecternScript, none⟩) := by
  refine ⟨by decide, ?_, ?_, ?_, ?_, ?_, ?_⟩
  · decide +kernel
  · decide +kernel
  · decide +kernel
  · decide +kernel
  · decide +kernel
  · decide +kernel

end Run

end HiveScript
