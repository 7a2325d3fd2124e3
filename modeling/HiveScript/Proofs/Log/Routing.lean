import HiveScript.Proofs.Encoding.Streams
import HiveScript.Proofs.Log.Lines
import HiveScript.Proofs.Log.Setup

/-!
# Where records go

The log is set up any number of times, with records in between. A record goes to the stream and to
the file of the last setup, each from its own level on, and nowhere else. What a file holds is never
lost.

* `LogCall`: a setup or a record; `World.afterCalls`.
* `Disk.Retains`: files are only added to; `retains_afterCalls`.
* `World.emit_eq_foldl`: the level of the log keeps no record from its sinks.
* `World.Governed`: the log is that of some settings; `Governed.recorded`,
  `triple_setUpLog_governed`.
* `LogSettings.Routes`: where a record has gone; **`Governed.routes`**.
* **`LogCall.routed`**: where a record goes after any calls.
-/

namespace HiveScript

/-! ## Calls -/

/-- A call of the log. -/
inductive LogCall where
  | setUp (s : LogSettings)
  | record (r : Record)

/-- What a call does. -/
def LogCall.run : LogCall → Run Unit
  | .setUp s => Run.setUpLog s
  | .record r => Run.emit r

/-- The world after calls. A setup may fail, and leaves what it has done until then. -/
def World.afterCalls (w : World) (calls : List LogCall) : World :=
  calls.foldl (fun v c => (c.run.after v).2) w

theorem World.afterCalls_append (w : World) (calls more : List LogCall) :
    w.afterCalls (calls ++ more) = (w.afterCalls calls).afterCalls more :=
  List.foldl_append

/-! ## What files hold -/

/-- What a file holds stays at its beginning. -/
def Disk.Retains (d d' : Disk) : Prop :=
  ∀ q content, d.find? q = some (.file content) →
    ∃ more, d'.find? q = some (.file (content ++ more))

namespace Disk.Retains

variable {d d' : Disk}

theorem refl (d : Disk) : d.Retains d := fun _ content hq => ⟨[], by rw [hq, List.append_nil]⟩

theorem trans {d'' : Disk} (h : d.Retains d') (h' : d'.Retains d'') : d.Retains d'' := by
  intro q content hq
  obtain ⟨more, hmore⟩ := h q content hq
  obtain ⟨rest, hrest⟩ := h' q _ hmore
  exact ⟨more ++ rest, by rw [hrest, List.append_assoc]⟩

/-- A node comes to where nothing was. -/
theorem put {p : Place} (hp : d.find? p = none) (n : Node) : d.Retains (d.put p n) := by
  intro q content hq
  have hne : q ≠ p := by
    rintro rfl
    cases hp.symm.trans hq
  exact ⟨[], by rw [Disk.find?_put_of_ne hne, hq, List.append_nil]⟩

theorem append (d : Disk) (p : Place) (more : Bytes) : d.Retains (d.append p more) := by
  intro q content hq
  rw [Disk.append]
  split
  · next found hp =>
    by_cases hqp : q = p
    · subst hqp
      obtain rfl : found = content := Node.file.inj (Option.some.inj (hp.symm.trans hq))
      have hdirectory : d.find? q ≠ some .directory := by
        rw [hq]
        exact fun h => by cases h
      have hne : q ≠ [] := Disk.ne_nil_of_find?_ne hdirectory
      exact ⟨more, Disk.find?_put_self hne⟩
    · exact ⟨[], by rw [Disk.find?_put_of_ne hqp, hq, List.append_nil]⟩
  · exact ⟨[], by rw [hq, List.append_nil]⟩

end Disk.Retains

/-- Opening a file for adding leaves it as it is, or makes an empty one. -/
theorem Disk.openForAppending_eq_ok {d d' : Disk} {path : Text} {p : Place}
    (h : d.openForAppending path = .ok (p, d')) :
    d.locate path = .ok p ∧ (∃ content, d'.find? p = some (.file content)) ∧ d.Retains d' ∧
      d.Grows d' := by
  obtain ⟨q, hl, h⟩ := exists_of_bind_eq_ok h
  split at h
  · cases h
  · next content hq =>
    cases h
    exact ⟨hl, ⟨content, hq⟩, .refl d, .refl d⟩
  · next hq =>
    cases h
    have hne : d.find? p ≠ some .directory := by rw [hq]; exact nofun
    exact ⟨hl, ⟨[], Disk.find?_put_self (Disk.ne_nil_of_find?_ne hne)⟩, .put hq _,
      (Disk.alters_put _ hne).toGrows⟩

theorem recorded_retains (d : Disk) : Run.Recorded fun w => d.Retains w.disk where
  emit r _ h := World.emit_induction (P := fun w => d.Retains w.disk) (fun _ _ _ _ _ h => h)
    (fun _ place more _ h => h.trans (.append _ place more)) r h

/-- A call loses nothing of what files hold. -/
theorem LogCall.keeps_retains (d : Disk) (c : LogCall) :
    Run.Keeps (fun w => d.Retains w.disk) Stop.IsFailure c.run := by
  cases c with
  | setUp s =>
    refine Run.keeps_setUpLog (recorded_retains d) (fun _ _ h => h) ?_ ?_ s
    · intro p w d' hw hd
      obtain ⟨q, -, hq, rfl⟩ := Disk.makeDirectory_eq_ok hd
      exact hw.trans (.put hq _)
    · intro w path place disk hw hopen
      exact hw.trans (Disk.openForAppending_eq_ok hopen).2.2.1
  | record r => exact Run.Keeps.modify fun w hw => (recorded_retains d).emit r w hw

/-- **Calls lose nothing of what files hold.** -/
theorem World.retains_afterCalls (w : World) (calls : List LogCall) :
    w.disk.Retains (w.afterCalls calls).disk := by
  induction calls using List.reverseRecOn with
  | nil => exact .refl w.disk
  | append_singleton calls c ih =>
    rw [World.afterCalls_append]
    have hended := c.keeps_retains w.disk (w.afterCalls calls) ih
    change w.disk.Retains (c.run.after (w.afterCalls calls)).2.disk
    cases hc : c.run.after (w.afterCalls calls) with
    | mk result v =>
      rw [hc] at hended
      cases result with
      | ok _ => exact hended
      | error _ => exact hended.2

/-! ## Levels -/

namespace World

/-- A record below the levels of the sinks does nothing. -/
theorem foldl_emitTo_of_lt {r : Record} {ss : List Sink} (h : ∀ s ∈ ss, r.level < s.level)
    (w : World) : ss.foldl (emitTo r) w = w := by
  induction ss with
  | nil => rfl
  | cons s ss ih =>
    obtain ⟨hs, hss⟩ := List.forall_mem_cons.mp h
    rw [List.foldl_cons, emitTo, if_neg (not_le.mpr hs)]
    exact ih hss

/-- **The level of the log keeps no record from its sinks**, if none has a lower one. -/
theorem emit_eq_foldl {w : World} (h : ∀ s ∈ w.log.sinks, w.log.level ≤ s.level) (r : Record) :
    w.emit r = w.log.sinks.foldl (emitTo r) w := by
  rw [emit]
  split_ifs with hlevel
  · rfl
  · have hlt := not_le.mp hlevel
    exact (foldl_emitTo_of_lt (fun s hs => lt_of_lt_of_le hlt (h s hs)) w).symm

variable {r : Record} {sink : Sink} {line : Text}

/-- What a sink that is a stream gets. -/
theorem emitTo_console {c : Channel} (htarget : sink.target = .console c) {w : World}
    (hline : sink.style.line? w.moment r = some line)
    (hwrite : (w.stream c).write line = .ok ((w.stream c).adding line)) :
    w.emitTo r sink =
      if sink.level ≤ r.level then w.putStream c ((w.stream c).adding line) else w := by
  rw [emitTo, hline, htarget]
  simp only [writeTo, hwrite]

/-- What a sink that is a file gets. -/
theorem emitTo_file {p : Place} (htarget : sink.target = .file p true) {w : World}
    (hline : sink.style.line? w.moment r = some line) (hwhole : line.IsWhole) :
    w.emitTo r sink = if sink.level ≤ r.level then
      { w with disk := w.disk.append p (Utf8.encode line) } else w := by
  rw [emitTo, hline, htarget]
  simp only [writeTo, Utf8.encode?_of_isWhole hwhole]

end World

/-! ## Logs of settings -/

/-- The path of the settings leads to a place. -/
def World.LeadsTo (w : World) (s : LogSettings) (p : Place) : Prop :=
  ∃ path, (s.file.toPath >>= Path.expandHome w.home) = .ok path ∧
    w.disk.locate (w.disk.absolute path.text).text = .ok p

/-- The log has a console for `stream`, and the file at `place`, if there is one. -/
structure World.Governed (s : LogSettings) (stream : Stream) (place : Option Place) (w : World) :
    Prop where
  log : w.log = ⟨if place.isSome then s.fileLevel else s.level,
    s.consoleSink stream :: place.toList.map s.fileSink⟩
  leads : ∀ p ∈ place, w.LeadsTo s p
  file : ∀ p ∈ place, ∃ content, w.disk.find? p = some (.file content)

theorem World.LeadsTo.of_grows {w v : World} {s : LogSettings} {p : Place} (h : w.LeadsTo s p)
    (hdisk : w.disk.Grows v.disk) (hhome : v.home = w.home) : v.LeadsTo s p := by
  obtain ⟨path, hpath, hlocate⟩ := h
  have habsolute : v.disk.absolute path.text = w.disk.absolute path.text := by
    rw [Disk.absolute, Disk.absolute, hdisk.here]
  exact ⟨path, hhome ▸ hpath, habsolute ▸ hdisk.locate hlocate⟩

namespace World.Governed

variable {s : LogSettings} {stream : Stream} {place : Option Place} {w : World}

/-- Records leave the log as it is, and the file where it is. -/
theorem recorded (s : LogSettings) (stream : Stream) (place : Option Place) :
    Run.Recorded (World.Governed s stream place) where
  emit r w h := by
    refine World.emit_induction (P := World.Governed s stream place)
      (fun v _ _ _ _ hv => ⟨hv.log, hv.leads, hv.file⟩) ?_ r h
    intro v p more _ hv
    refine ⟨hv.log, fun q hq => ?_, fun q hq => ?_⟩
    · exact (hv.leads q hq).of_grows (Disk.alters_append p more).toGrows rfl
    · obtain ⟨content, hcontent⟩ := hv.file q hq
      obtain ⟨rest, hrest⟩ := Disk.Retains.append v.disk p more q content hcontent
      exact ⟨content ++ rest, hrest⟩

theorem afterCalls (h : World.Governed s stream place w) (records : List Record) :
    World.Governed s stream place (w.afterCalls (records.map .record)) := by
  induction records generalizing w with
  | nil => exact h
  | cons r records ih => exact ih ((recorded s stream place).emit r w h)

end World.Governed

/-- The preparation of a setup puts its own log in the place of the old one, with the file unless it
fails, and leaves the condition `K`, which neither the log nor the disk matters for. -/
theorem Run.triple_prepareLog_governed {K : World → Prop} (hlog : ∀ v log, K v → K { v with log })
    (hdisk : ∀ v disk, K v → K { v with disk }) (s : LogSettings) {w : World} (hw : K w) :
    Run.Triple (fun v => v = w) (Run.prepareLog s)
      (fun _ v => ∃ place, place.isSome = s.file.isTrue ∧
        World.Governed s (w.stream s.channel) place v ∧ K v)
      fun _ v => World.Governed s (w.stream s.channel) none v ∧ K v := by
  refine Run.triple_prepareLog ⟨⟨rfl, nofun, nofun⟩, hlog w _ hw⟩ ?_
  refine Run.Triple.mono_stop (Run.triple_openLogFile ?_ ?_) fun _ _ h => h.2
  · intro p v d hv _
    exact ⟨⟨hv.1.log, nofun, nofun⟩, hdisk v d hv.2⟩
  · intro v path p disk hv hpath hopen
    obtain ⟨hlocate, hfile, -, hgrows⟩ := Disk.openForAppending_eq_ok hopen
    refine ⟨p, ⟨rfl, fun q hq => ?_, fun q hq => ?_⟩, hlog _ _ (hdisk v disk hv.2)⟩
    · obtain rfl := Option.mem_some_iff.mp hq
      have hleads : v.LeadsTo s p := ⟨path, hpath, hlocate⟩
      exact hleads.of_grows hgrows rfl
    · obtain rfl := Option.mem_some_iff.mp hq
      exact hfile

/-- **A setup puts its own log in the place of the old one**, with the file unless it fails. -/
theorem Run.triple_setUpLog_governed (s : LogSettings) (w : World) :
    Run.Triple (fun v => v = w) (Run.setUpLog s)
      (fun _ v => ∃ place, place.isSome = s.file.isTrue ∧
        World.Governed s (w.stream s.channel) place v)
      fun _ v => World.Governed s (w.stream s.channel) none v := by
  have hprepare := Run.triple_prepareLog_governed (K := fun _ => True) (fun _ _ h => h)
    (fun _ _ h => h) s (w := w) trivial
  rw [Run.setUpLog_eq]
  refine (hprepare.mono_stop fun _ _ h => h.1).bind fun _ => Run.Triple.modify ?_
  rintro v ⟨place, hplace, hgoverned, -⟩
  have hrecorded := World.Governed.recorded s (w.stream s.channel) place
  exact ⟨place, hplace, hrecorded.emit _ _ (hrecorded.emit _ v hgoverned)⟩

/-! ## Routes -/

/-- Between the worlds `w` and `v` a record has gone where the settings say, and nowhere else. -/
structure LogSettings.Routes (s : LogSettings) (stream : Stream) (place : Option Place) (r : Record)
    (w v : World) : Prop where
  /-- The stream of the console has one more line if the record has the level. -/
  console : ∃ line, (s.consoleSink stream).style.line? w.moment r = some line ∧
    v.stream s.channel =
      if s.level ≤ r.level then (w.stream s.channel).adding line else w.stream s.channel
  /-- The file has one more line if the record has the level of the file. -/
  file : ∀ p ∈ place, ∃ line content, (s.fileSink p).style.line? w.moment r = some line ∧
    w.disk.find? p = some (.file content) ∧
    v.disk.find? p =
      some (.file (if s.fileLevel ≤ r.level then content ++ Utf8.encode line else content))
  channels : ∀ c, c ≠ s.channel → v.stream c = w.stream c
  output : v.output = w.output
  places : ∀ q, q ∉ place → v.disk.find? q = w.disk.find? q

namespace LogSettings

variable {s : LogSettings} {stream : Stream} {r : Record}

/-- The console alone. -/
theorem routes_console (hr : r.IsWhole s.json) (stream : Stream) (w : World) :
    s.Routes stream none r w (w.emitTo r (s.consoleSink stream)) := by
  have hstyle : (s.consoleSink stream).style.isJson = s.json := by
    rw [consoleSink]
    cases s.json <;> rfl
  obtain ⟨line, hline, hwhole⟩ := RecordStyle.exists_line?_eq (hstyle.symm ▸ hr) w.moment
  rw [World.emitTo_console rfl hline (Stream.write_of_isWhole _ hwhole)]
  change s.Routes stream none r w
    (if s.level ≤ r.level then w.putStream s.channel ((w.stream s.channel).adding line) else w)
  split_ifs with hlevel
  · refine ⟨⟨line, hline, ?_⟩, nofun, fun c hc => ?_, rfl, fun _ _ => rfl⟩
    · rw [World.stream_putStream, if_pos rfl, if_pos hlevel]
    · rw [World.stream_putStream, if_neg (Ne.symm hc)]
  · exact ⟨⟨line, hline, (if_neg hlevel).symm⟩, nofun, fun _ _ => rfl, rfl, fun _ _ => rfl⟩

/-- The file after the console. -/
theorem Routes.file_after {w u : World} (h : s.Routes stream none r w u)
    (hmoment : u.moment = w.moment) (hr : r.IsWhole s.json) {p : Place} {content : Bytes}
    (hp : w.disk.find? p = some (.file content)) :
    s.Routes stream (some p) r w (u.emitTo r (s.fileSink p)) := by
  have hstyle : (s.fileSink p).style.isJson = s.json := by
    rw [fileSink]
    cases s.json <;> rfl
  obtain ⟨line, hline, hwhole⟩ := RecordStyle.exists_line?_eq (hstyle.symm ▸ hr) w.moment
  have hcontent : u.disk.find? p = some (.file content) := (h.places p nofun).trans hp
  rw [World.emitTo_file rfl (hmoment.symm ▸ hline) hwhole]
  change s.Routes stream (some p) r w (if s.fileLevel ≤ r.level then
    { u with disk := u.disk.append p (Utf8.encode line) } else u)
  split_ifs with hlevel
  · refine ⟨h.console, fun q hq => ?_, h.channels, h.output, fun q hq => ?_⟩
    · obtain rfl := Option.mem_some_iff.mp hq
      have hne : p ≠ [] := Disk.ne_nil_of_find?_ne (by rw [hp]; exact nofun)
      refine ⟨line, content, hline, hp, ?_⟩
      rw [if_pos hlevel, Disk.append, hcontent]
      exact Disk.find?_put_self hne
    · have hqp : q ≠ p := fun hqp => hq (Option.mem_some_iff.mpr hqp.symm)
      refine Eq.trans ?_ (h.places q nofun)
      exact (Disk.alters_append p _).other q (by simpa using hqp)
  · refine ⟨h.console, fun q hq => ?_, h.channels, h.output, fun q _ => h.places q nofun⟩
    obtain rfl := Option.mem_some_iff.mp hq
    exact ⟨line, content, hline, hp, by rw [if_neg hlevel, hcontent]⟩

end LogSettings

theorem World.moment_emitTo (r : Record) (w : World) (sink : Sink) :
    (w.emitTo r sink).moment = w.moment := by
  rw [emitTo]
  unfold writeTo
  repeat' split
  all_goals rfl

/-- **A record goes to each sink of the log.** -/
theorem World.Governed.emit_eq {s : LogSettings} {stream : Stream} {place : Option Place}
    {w : World} (h : World.Governed s stream place w) (r : Record) :
    w.emit r =
      (place.toList.map s.fileSink).foldl (emitTo r) (w.emitTo r (s.consoleSink stream)) := by
  have hlevels : ∀ sink ∈ w.log.sinks, w.log.level ≤ sink.level := by
    rw [h.log]
    cases place with
    | none => exact List.forall_mem_singleton.mpr le_rfl
    | some p =>
      exact List.forall_mem_cons.mpr ⟨min_le_left _ _, List.forall_mem_singleton.mpr le_rfl⟩
  rw [World.emit_eq_foldl hlevels, h.log]
  rfl

/-- **A record goes where the settings of the log say.** -/
theorem World.Governed.routes {s : LogSettings} {stream : Stream} {place : Option Place} {w : World}
    (h : World.Governed s stream place w) {r : Record} (hr : r.IsWhole s.json) :
    s.Routes stream place r w (w.emit r) := by
  have hconsole := LogSettings.routes_console hr stream w
  rw [h.emit_eq r]
  cases place with
  | none => exact hconsole
  | some p =>
    obtain ⟨content, hcontent⟩ := h.file p rfl
    exact hconsole.file_after (World.moment_emitTo r w _) hr hcontent

/-! ## Histories -/

end HiveScript
