import HiveScript.Log.Setup
import HiveScript.Proofs.Run.Files

/-!
# Setting up the log

A setup puts a new log in the place of the old one, first with the console alone, and then with a
file too if there is to be one.

* `Template.Fills`, `Fills.fill_eq`: messages with places that show their arguments.
* `Run.triple_openLogFile`: what opening the file leaves.
* **`Run.setUpLog_eq`**: a setup is its preparation and then its own records.
* **`Run.triple_setUpLog`**: what a setup leaves.
* `Run.keeps_setUpLog`: conditions that a setup leaves as they are.
-/

namespace HiveScript

/-! ## Messages -/

namespace Template

/-- A place that shows its argument. -/
def shown : Piece := .place ⟨none, ⟨false, false, false, false, false⟩, .absent, .absent, .display⟩

/-- Parts of a template that use up their arguments and come to a text. -/
def Fills (ps : List Piece) (vs : List Value) (t : Text) : Prop :=
  ∃ parts, ps.mapM Piece.fill (.inOrder vs) = some (parts, .inOrder []) ∧ parts.flatten = t

variable {ps : List Piece} {vs : List Value} {t : Text}

theorem fills_nil : Fills [] [] [] := ⟨[], rfl, rfl⟩

theorem Fills.cons (h : Fills ps vs t) {piece : Piece} {vs' : List Value} {u : Text}
    (hpiece : piece.fill (.inOrder vs') = some (u, .inOrder vs)) :
    Fills (piece :: ps) vs' (u ++ t) := by
  obtain ⟨parts, hparts, rfl⟩ := h
  refine ⟨u :: parts, ?_, List.flatten_cons⟩
  rw [List.mapM_cons]
  change ((piece.fill (.inOrder vs')).bind fun r =>
    (ps.mapM Piece.fill r.2).bind fun q => some (r.1 :: q.1, q.2)) = _
  rw [hpiece, Option.bind_some, hparts]
  rfl

theorem Fills.literal (h : Fills ps vs t) (s : Text) :
    Fills (s.map Piece.literal ++ ps) vs (s ++ t) := by
  induction s with
  | nil => exact h
  | cons p s ih =>
    have hpiece : (Piece.literal p).fill (.inOrder vs) = some ([p], .inOrder vs) := rfl
    exact ih.cons hpiece

theorem Fills.shown (h : Fills ps vs t) {v : Value} {u : Text} (hv : v.display? = some u) :
    Fills (shown :: ps) (v :: vs) (u ++ t) := by
  refine h.cons ?_
  have hfill : Template.shown.fill (.inOrder (v :: vs)) =
      ((write? .display false none v).bind fun w => some (w, Supply.inOrder vs)).bind fun r =>
        some (pad ⟨false, false, false, false, false⟩ 0 r.1, r.2) := rfl
  have hpad : pad ⟨false, false, false, false, false⟩ 0 (.ofText u) = u := by
    simp [pad, Written.ofText, Text.padLeft]
  rw [hfill, write?, hv]
  exact congrArg (fun s => some (s, Supply.inOrder vs)) hpad

/-- The message of a template whose parts use up its arguments. -/
theorem Fills.fill_eq {template : Template} (h : Fills ps template.arguments t)
    (hpieces : pieces? template.text = some ps) (hne : template.arguments ≠ [])
    (hsupply : Supply.ofList template.arguments = .inOrder template.arguments) :
    template.fill = some t := by
  obtain ⟨parts, hparts, rfl⟩ := h
  have hsome : template.arguments.isEmpty = false := by simpa using hne
  rw [fill, hsome, if_neg Bool.false_ne_true, hpieces, hsupply]
  change ((ps.mapM Piece.fill (.inOrder template.arguments)).bind fun r =>
    if r.2.isDone then some r.1.flatten else none) = _
  rw [hparts]
  rfl

end Template

theorem Value.display?_nat {n : Nat} (hn : n < Numeral.limit) :
    display? (.nat n) = some (Numeral.decimal n) := by
  change Numeral.ofInt? n = _
  exact if_pos hn

/-- The message of the first record of a setup. -/
theorem fill_initialized (a : Text) {n : Nat} (hn : n < Numeral.limit) :
    Template.fill ⟨"Logger initialized (level=%s, pid=%s)", [.text a, .nat n]⟩ =
      some ("Logger initialized (level=" ++ (a ++ (", pid=" ++ (Numeral.decimal n ++ ")")))) := by
  have ha : Value.display? (.text a) = some a := rfl
  have hend := (Template.fills_nil.literal ")").shown (Value.display?_nat hn)
  have hfills := ((hend.literal ", pid=").shown ha).literal "Logger initialized (level="
  rw [List.append_nil] at hfills
  exact Template.Fills.fill_eq hfills rfl (List.cons_ne_nil _ _) rfl

namespace Run

/-! ## Setups -/

theorem keeps_pathOf {P : World → Prop} (v : Value) : Keeps P Stop.IsFailure (pathOf v) :=
  Keeps.get.bind fun _ => Keeps.ofExcept fun f => ⟨f, rfl⟩

theorem keeps_refuse {P : World → Prop} {α : Type} {path : Text} {goal : Option Text}
    {r : Except FileProblem α} : Keeps P Stop.IsFailure (refuse path goal r) := by
  cases r with
  | ok a => exact Keeps.pure
  | error problem => exact Keeps.throw ⟨_, rfl⟩

variable {s : LogSettings}

/-- **The file is opened** at the place of its path; only directories are made before. -/
theorem triple_openLogFile {P : World → Prop} {Q : Sink → World → Prop}
    (hmake : ∀ p : Path, Undisturbed P fun d => d.makeDirectory p.text)
    (hopen : ∀ w path place disk, P w → (s.file.toPath >>= Path.expandHome w.home) = .ok path →
      w.disk.openForAppending (w.disk.absolute path.text).text = .ok (place, disk) →
      Q (s.fileSink place) { w with disk }) :
    Triple P (openLogFile s) Q fun e w => e.IsFailure ∧ P w := by
  intro w hw
  -- The path is made out before there are directories, and is the same after.
  let K : World → Prop := fun v => P v ∧ v.home = w.home ∧ v.disk.here = w.disk.here
  have hK : ∀ p : Path, Undisturbed K fun d => d.makeDirectory p.text := by
    rintro p v d ⟨hv, hhome, hhere⟩ hd
    refine ⟨hmake p v d hv hd, hhome, ?_⟩
    obtain ⟨q, -, -, rfl⟩ := Disk.makeDirectory_eq_ok hd
    exact hhere
  have hpath : Triple K (pathOf s.file)
      (fun path v => (s.file.toPath >>= Path.expandHome w.home) = .ok path ∧ K v)
      fun e v => e.IsFailure ∧ P v := by
    refine Triple.get.bind fun u => Triple.ofExcept ?_ fun f _ v hv => ⟨⟨f, rfl⟩, hv.2.1⟩
    rintro path hpath v ⟨rfl, hv⟩
    exact ⟨hv.2.1 ▸ hpath, hv⟩
  have hstop : ∀ (e : Stop) v, e.IsFailure ∧ K v → e.IsFailure ∧ P v := fun _ _ h => ⟨h.1, h.2.1⟩
  refine (hpath.bind fun path => ?_ : Triple K (openLogFile s) Q _) w ⟨hw, rfl, rfl⟩
  rintro v ⟨hpath, hv⟩
  have hchecked : Keeps K Stop.IsFailure (ofExcept (checkPath path.text)) :=
    Keeps.ofExcept fun f => ⟨f, rfl⟩
  refine ((Triple.mono_stop hchecked hstop).bind fun _ => Triple.get.bind fun u => ?_) v hv
  rintro u' ⟨rfl, hu⟩
  have hmade : Keeps K Stop.IsFailure (makeDirectories (u.disk.absolute path.text).parent) :=
    keeps_makeDirectoriesFor _ fun p _ _ => hK p
  refine ((Triple.mono_stop hmade hstop).bind fun _ => Triple.get.bind fun t => ?_) u hu
  rintro t' ⟨rfl, ht⟩
  have habsolute : u.disk.absolute path.text = t.disk.absolute path.text := by
    rw [Disk.absolute, Disk.absolute, hu.2.2, ht.2.2]
  rw [habsolute]
  cases hopened : t.disk.openForAppending (t.disk.absolute path.text).text with
  | error problem => exact ⟨⟨_, rfl⟩, ht.1⟩
  | ok opened =>
    obtain ⟨place, disk⟩ := opened
    exact hopen t path place disk ht.1 (ht.2.1.symm ▸ hpath) hopened

/-- A setup up to its own records. -/
def prepareLog (s : LogSettings) : Run Unit := do
  let console := s.consoleSink ((← get).stream s.channel)
  setLog ⟨s.level, [console]⟩
  if s.file.isTrue then
    let file ← openLogFile s
    setLog ⟨s.fileLevel, [console, file]⟩

/-- The records of a setup itself. -/
def greetings (s : LogSettings) (process : Nat) : List Record := [
    ⟨Level.debug, mainLogger, "logger", ⟨"Logger initialized (level=%s, pid=%s)",
      [.text s.level.name, .nat process]⟩, [], none⟩,
    ⟨Level.trace, mainLogger, "logger", .plain "TRACE enabled", [], none⟩]

/-- **A setup is its preparation and then its own records.** -/
theorem setUpLog_eq (s : LogSettings) : setUpLog s = (do
    prepareLog s
    modify fun w => (greetings s w.process).foldl (fun v r => v.emit r) w) := by
  rw [setUpLog, prepareLog]
  by_cases htrue : s.file.isTrue
  · simp only [if_pos htrue, bind_assoc]
    rfl
  · simp only [if_neg htrue, bind_assoc]
    rfl

/-- What the preparation leaves: the condition `Q` of the place of the file, if there is one. -/
theorem triple_prepareLog {w : World} {Q : Option Place → World → Prop} {E : Stop → World → Prop}
    (hconsole : Q none { w with log := ⟨s.level, [s.consoleSink (w.stream s.channel)]⟩ })
    (hfile : Triple (Q none) (openLogFile s) (fun sink v => ∃ p, Q (some p)
      { v with log := ⟨s.fileLevel, [s.consoleSink (w.stream s.channel), sink]⟩ }) E) :
    Triple (fun v => v = w) (prepareLog s)
      (fun _ v => ∃ o, o.isSome = s.file.isTrue ∧ Q o v) E := by
  rw [prepareLog]
  refine Triple.get.bind fun u => ?_
  rintro v ⟨rfl, rfl⟩
  refine (Triple.bind (Q := fun _ => Q none) (Triple.modify ?_) fun _ => ?_ :
    Triple (fun v => v = u) _ _ _) u rfl
  · rintro v rfl
    exact hconsole
  split_ifs with htrue
  · refine hfile.bind fun sink => Triple.modify ?_
    rintro v ⟨p, hv⟩
    exact ⟨some p, htrue.symm, hv⟩
  · exact Triple.pure fun v hv => ⟨none, (Bool.eq_false_iff.mpr htrue).symm, hv⟩

/-- **What a setup leaves**: the condition `Q` of the place of the file, if there is one. -/
theorem triple_setUpLog {w : World} {Q : Option Place → World → Prop} {E : Stop → World → Prop}
    (hQ : ∀ o, Recorded (Q o))
    (hconsole : Q none { w with log := ⟨s.level, [s.consoleSink (w.stream s.channel)]⟩ })
    (hfile : Triple (Q none) (openLogFile s) (fun sink v => ∃ p, Q (some p)
      { v with log := ⟨s.fileLevel, [s.consoleSink (w.stream s.channel), sink]⟩ }) E) :
    Triple (fun v => v = w) (setUpLog s)
      (fun _ v => ∃ o, o.isSome = s.file.isTrue ∧ Q o v) E := by
  rw [setUpLog_eq]
  refine (triple_prepareLog hconsole hfile).bind fun _ => Triple.modify ?_
  rintro v ⟨o, ho, hv⟩
  exact ⟨o, ho, (hQ o).emit _ _ ((hQ o).emit _ v hv)⟩

/-- Conditions that a setup leaves as they are. -/
theorem keeps_setUpLog {P : World → Prop} (hP : Recorded P)
    (hlog : ∀ w log, P w → P { w with log })
    (hmake : ∀ p : Path, Undisturbed P fun d => d.makeDirectory p.text)
    (hopen : ∀ w path place disk, P w → w.disk.openForAppending path = .ok (place, disk) →
      P { w with disk }) (s : LogSettings) : Keeps P Stop.IsFailure (setUpLog s) := by
  intro w hw
  have hfile : Triple P (openLogFile s) (fun sink v => ∃ _ : Place,
      P { v with log := ⟨s.fileLevel, [s.consoleSink (w.stream s.channel), sink]⟩ })
      fun e v => e.IsFailure ∧ P v :=
    triple_openLogFile hmake fun v _ place disk hv _ hdisk =>
      ⟨place, hlog _ _ (hopen v _ place disk hv hdisk)⟩
  refine ((triple_setUpLog (Q := fun _ => P) (fun _ => hP) (hlog w _ hw) hfile).mono_answer
    fun _ v hv => ?_) w rfl
  obtain ⟨_, -, hv⟩ := hv
  exact hv

end Run

end HiveScript
