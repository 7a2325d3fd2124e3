import HiveScript.Proofs.Json.Escaped
import HiveScript.Proofs.Log.Routing

/-!
# Logs in JSON

A line of the log passes two writers: that of JSON leaves most points as they are, and the stream
writes escapes for those that its encoding lacks. Not all of these escapes are in JSON.

* `TextRecord`: records whose context is made of texts. `TextRecord.Conveyed`: all their points come
  back. `TextRecord.told`: their fields as they come back.
* **`TextRecord.exists_json`**: a record has a line, which is read as what comes back of the fields,
  or not at all.
* `TextRecord.IsPlain`, `TextRecord.IsPlain.told_eq`: when fields come back as they are.
* `World.Consoles`: worlds after so many lines. **`World.Consoles.emit`** is one record,
  `World.Consoles.foldl_emit` many, `World.Consoles.of_setUp` those after a setup.
* **`LogSettings.shown_lines`**: the lines on the stream, read again.
-/

namespace HiveScript

/-! ## Records of texts -/

/-- A record with its message, whose context is made of texts. -/
structure TextRecord where
  record : Record
  message : Text
  context : List (Text × Text)
  fill_eq : record.message.fill = some message
  context_eq : record.context = context.map fun f => (f.1, .text f.2)

theorem Encoding.rejoined_of_basic (e : Encoding) {s : Text} (hs : s.IsBasic) : e.rejoined s = s :=
  Json.rejoined_of_unpaired _ (Utf16.unpaired_of_isWhole hs.isAscii.isWhole)

namespace TextRecord

variable {e : Encoding} (he : e.HasBasic) (m : Moment) (r : TextRecord)

/-- The texts that a record brings to its line. -/
def texts : List Text :=
  [r.record.logger, r.message, r.record.source] ++ r.context.flatMap (fun f => [f.1, f.2]) ++
    r.record.trouble.toList.flatMap fun t => [t.1, Record.troubleText t.1 t.2]

/-- All points of the record come back. -/
def Conveyed (e : Encoding) : Prop := ∀ s ∈ r.texts, ∀ p ∈ s, e.Conveys p

-- The search for instances would go through all points instead of those of the texts.
instance (e : Encoding) : Decidable (r.Conveyed e) :=
  decidable_of_iff (r.texts.all (fun s => s.all (decide <| e.Conveys ·)) = true)
    (by simp [Conveyed])

/-- The fields of the line as they come back. -/
def told (e : Encoding) : List (Text × Value) :=
  let common : List (Text × Value) := [
    ("ts", .text m.stamp), ("level", .text r.record.level.name),
    ("logger", .text (e.rejoined r.record.logger)), ("msg", .text (e.rejoined r.message)),
    ("module", .text (e.rejoined r.record.source)), ("lineno", .nat 0)]
  let context : List (Text × Value) :=
    if r.context.isEmpty then []
    else [("ctx", .map (Json.collect
      (r.context.map fun f => (e.rejoined f.1, .text (e.rejoined f.2)))))]
  let trouble : List (Text × Value) :=
    match r.record.trouble with
    | none => []
    | some (class_, text) =>
      [("exc_type", .text (e.rejoined class_)),
        ("traceback", .text (e.rejoined (Record.troubleText class_ text)))]
  common ++ context ++ trouble

open Json

/-! ### Fields -/

/-- The fields that all lines have, with what comes back of them. -/
def commonParts : List (Part e 1) := [
    .text he "ts" m.stamp, .text he "level" r.record.level.name,
    .text he "logger" r.record.logger, .text he "msg" r.message, .text he "module" r.record.source,
    ⟨"lineno", _, _, _, (tells_nat he Numeral.limit_pos).mono (Nat.zero_le 1)⟩]

/-- The fields of the context with what comes back of them. -/
def contextParts : List (Part e 0) := r.context.map fun f => .text he f.1 f.2

/-- The context with what comes back of it. -/
def contextPart : Part e 1 := ⟨"ctx", _, _, _, tells_object he (r.contextParts he)⟩

/-- The fields of an error with what comes back of them. -/
def troubleParts : List (Part e 1) :=
  match r.record.trouble with
  | none => []
  | some (class_, text) =>
    [.text he "exc_type" class_, .text he "traceback" (Record.troubleText class_ text)]

/-- The fields of the line with what comes back of them. -/
def parts : List (Part e 1) :=
  r.commonParts he m ++ (if r.context.isEmpty then [] else [r.contextPart he]) ++ r.troubleParts he

theorem map_parts {β : Type} (f : Part e 1 → β) :
    (r.parts he m).map f =
      (r.commonParts he m).map f ++ (if r.context.isEmpty then [] else [f (r.contextPart he)]) ++
        match r.record.trouble with
        | none => []
        | some (class_, text) =>
          [f (.text he "exc_type" class_),
            f (.text he "traceback" (Record.troubleText class_ text))] := by
  rw [parts, List.map_append, List.map_append, apply_ite (List.map f), List.map_singleton,
    troubleParts]
  cases r.record.trouble <;> rfl

theorem map_field_parts : (r.parts he m).map Part.field = r.record.fields m r.message := by
  have hempty : r.context.isEmpty = r.record.context.isEmpty := by
    rw [r.context_eq, List.isEmpty_map]
  have hcontext : (r.contextPart he).field = (("ctx" : Text), .object r.record.context) := by
    have hfields : (r.contextParts he).map Part.field = r.record.context :=
      List.map_map.trans r.context_eq.symm
    rw [← hfields]
    rfl
  rw [map_parts, hempty, hcontext]
  rfl

/-- The names of the fields. -/
def names : List Text :=
  let common : List Text := ["ts", "level", "logger", "msg", "module", "lineno"]
  let context : List Text := if r.context.isEmpty then [] else ["ctx"]
  let trouble : List Text := if r.record.trouble.isSome then ["exc_type", "traceback"] else []
  common ++ context ++ trouble

theorem map_name_parts : (r.parts he m).map Part.name = r.names := by
  rw [map_parts, names]
  cases r.record.trouble <;> rfl

theorem isBasic_name : ∀ p ∈ r.parts he m, p.name.IsBasic := by
  have hnames : ∀ name ∈ (r.parts he m).map Part.name, name.IsBasic := by
    rw [map_name_parts, names]
    cases r.context.isEmpty <;> cases r.record.trouble.isSome <;> decide
  exact List.forall_mem_map.mp hnames

theorem nodup_parts : ((r.parts he m).map Part.name).Nodup := by
  rw [map_name_parts, names]
  cases r.context.isEmpty <;> cases r.record.trouble.isSome <;> decide

theorem map_back_parts : (r.parts he m).map Part.back = r.told m e := by
  have hback : ∀ p ∈ r.parts he m, p.back = (p.name, p.told) := fun p hp =>
    congrArg (·, _) (e.rejoined_of_basic (r.isBasic_name he m p hp))
  have hcommon : (r.commonParts he m).map (fun p => (p.name, p.told)) = ([
      ("ts", .text (e.rejoined m.stamp)), ("level", .text (e.rejoined r.record.level.name)),
      ("logger", .text (e.rejoined r.record.logger)), ("msg", .text (e.rejoined r.message)),
      ("module", .text (e.rejoined r.record.source)), ("lineno", .nat 0)] :
        List (Text × Value)) := rfl
  have hcontext : (r.contextParts he).map Part.back =
      r.context.map fun f => (e.rejoined f.1, .text (e.rejoined f.2)) := List.map_map
  rw [e.rejoined_of_basic m.isBasic_stamp, e.rejoined_of_basic r.record.level.isBasic_name]
    at hcommon
  rw [List.map_congr_left hback, map_parts, hcommon, told, ← hcontext]
  rfl

/-- The context comes back if all its fields do. -/
theorem context_ok_iff : (∀ p ∈ (if r.context.isEmpty then [] else [r.contextPart he]), p.ok) ↔
    ∀ s ∈ r.context.flatMap (fun f => [f.1, f.2]), ∀ p ∈ s, e.Conveys p := by
  have hfields : (∀ p ∈ r.contextParts he, p.Comes) ↔
      ∀ s ∈ r.context.flatMap (fun f => [f.1, f.2]), ∀ p ∈ s, e.Conveys p := by
    rw [contextParts, List.forall_mem_map, List.forall_mem_flatMap]
    simp only [List.forall_mem_cons]
    exact forall₂_congr fun f _ => and_congr_right fun _ => (and_iff_left nofun).symm
  rw [← hfields]
  cases hcontext : r.context with
  | nil =>
    have hnil : r.contextParts he = [] := by rw [contextParts, hcontext, List.map_nil]
    rw [hnil]
    exact iff_of_true nofun nofun
  | cons f fs => exact List.forall_mem_singleton

theorem comes_parts : (∀ p ∈ r.parts he m, p.Comes) ↔ r.Conveyed e := by
  have hbasic : ∀ {s : Text}, s.IsBasic → ∀ p ∈ s, e.Conveys p := fun hs p hp =>
    .inl (he p (hs p hp))
  have hnames : (∀ p ∈ r.parts he m, p.Comes) ↔ ∀ p ∈ r.parts he m, p.ok :=
    forall₂_congr fun p hp => and_iff_right (hbasic (r.isBasic_name he m p hp))
  have hcommon : (∀ p ∈ r.commonParts he m, p.ok) ↔
      ∀ s ∈ [r.record.logger, r.message, r.record.source], ∀ p ∈ s, e.Conveys p := by
    have hstamp := hbasic m.isBasic_stamp
    have hlevel := hbasic r.record.level.isBasic_name
    rw [commonParts]
    simp only [List.forall_mem_cons]
    exact ⟨fun ⟨_, _, hlogger, hmessage, hsource, _⟩ => ⟨hlogger, hmessage, hsource, nofun⟩,
      fun ⟨hlogger, hmessage, hsource, _⟩ =>
        ⟨hstamp, hlevel, hlogger, hmessage, hsource, trivial, nofun⟩⟩
  have htrouble : (∀ p ∈ r.troubleParts he, p.ok) ↔
      ∀ s ∈ r.record.trouble.toList.flatMap (fun t => [t.1, Record.troubleText t.1 t.2]),
        ∀ p ∈ s, e.Conveys p := by
    rw [troubleParts]
    cases r.record.trouble with
    | none => exact iff_of_true nofun nofun
    | some t =>
      simp only [Option.toList_some, List.flatMap_singleton, List.forall_mem_cons]
      exact and_congr_right fun _ => and_congr_right fun _ => iff_of_true nofun nofun
  rw [hnames, parts, Conveyed, texts, List.forall_mem_append, List.forall_mem_append,
    List.forall_mem_append, List.forall_mem_append, hcommon, context_ok_iff, htrouble]

theorem collect_parts : collect ((r.parts he m).map Part.back) = (r.told m e).map entry := by
  have hnames : ((r.parts he m).map Part.back).map Prod.fst = (r.parts he m).map Part.name := by
    rw [List.map_map]
    exact List.map_congr_left fun p hp => e.rejoined_of_basic (r.isBasic_name he m p hp)
  rw [collect_of_nodup (by rw [hnames]; exact r.nodup_parts he m), map_back_parts]

include he in
/-- **The line of a record**, and what comes back of it. -/
theorem exists_json : ∃ t, r.record.json m = some t ∧
    Json.Comes e 2 t (.object (r.told m e)) (r.Conveyed e) := by
  obtain ⟨t, ht, hcomes⟩ := tells_object he (r.parts he m) 0
  rw [collect_parts, comes_parts] at hcomes
  refine ⟨t, ?_, hcomes⟩
  rw [map_field_parts] at ht
  have hline : Json.line (.object (r.record.fields m r.message)) = .ok t := ht
  rw [Record.json, r.fill_eq, Option.bind_eq_bind, Option.bind_some, hline]
  rfl

end TextRecord

/-- Nothing of the record comes back in another form: it has no pairs of surrogates, and the names
of its context are different. -/
structure TextRecord.IsPlain (r : TextRecord) : Prop where
  unpaired : ∀ s ∈ r.texts, Utf16.Unpaired s
  nodup : (r.context.map Prod.fst).Nodup

theorem TextRecord.IsPlain.told_eq {r : TextRecord} (h : r.IsPlain) (m : Moment) (e : Encoding) :
    r.told m e = r.record.fields m r.message := by
  have hsame : ∀ s ∈ r.texts, e.rejoined s = s := fun s hs =>
    Json.rejoined_of_unpaired _ (h.unpaired s hs)
  simp only [texts, List.forall_mem_append, List.forall_mem_cons, List.forall_mem_flatMap] at hsame
  obtain ⟨⟨⟨hlogger, hmessage, hsource, -⟩, hcontext⟩, htrouble⟩ := hsame
  have hempty : r.record.context.isEmpty = r.context.isEmpty := by
    rw [r.context_eq, List.isEmpty_map]
  have hfields : r.context.map (fun f => (e.rejoined f.1, Value.text (e.rejoined f.2))) =
      r.record.context := by
    rw [r.context_eq]
    refine List.map_congr_left fun f hf => ?_
    obtain ⟨hname, htext, -⟩ := hcontext f hf
    rw [hname, htext]
  have hcollect : Json.collect r.record.context = r.record.context.map Json.entry := by
    refine Json.collect_of_nodup ?_
    rw [r.context_eq, List.map_map]
    exact h.nodup
  rw [told, Record.fields, hfields, hcollect, hlogger, hmessage, hsource, hempty]
  cases hcase : r.record.trouble with
  | none => rfl
  | some t =>
    rw [hcase] at htrouble
    obtain ⟨hclass, htext, -⟩ := htrouble t List.mem_cons_self
    dsimp only
    rw [hclass, htext]
    rfl

/-- The records that the console gets. -/
def LogSettings.shown (s : LogSettings) (rs : List TextRecord) : List TextRecord :=
  rs.filter fun r => s.level ≤ r.record.level

/-! ## Consoles -/

/-- The log is that of some settings, and so much more is written to the stream of its console. -/
structure World.Consoles (s : LogSettings) (stream : Stream) (m : Moment) (t : Text) (w : World) :
    Prop where
  governed : ∃ place, World.Governed s stream place w
  moment : w.moment = m
  written : w.stream s.channel = stream.adding t

section

variable {s : LogSettings} {stream : Stream} {m : Moment} {t : Text} {w : World}

theorem World.stream_emitTo_fileSink (s : LogSettings) (r : Record) (w : World) (p : Place)
    (c : Channel) : (w.emitTo r (s.fileSink p)).stream c = w.stream c := by
  unfold emitTo
  split_ifs
  · split
    · unfold writeTo LogSettings.fileSink
      dsimp only
      split <;> rfl
    · rfl
  · rfl

theorem World.moment_emit (r : Record) (w : World) : (w.emit r).moment = w.moment :=
  World.emit_induction (P := fun v => v.moment = w.moment) (fun _ _ _ _ _ h => h)
    (fun _ _ _ _ h => h) r rfl

/-- **A record of the level of the console has its line there.** -/
theorem World.Consoles.emit (h : World.Consoles s stream m t w) (hjson : s.json = true)
    (hpolicy : stream.policy ≠ .strict) {r : Record} {line : Text} (hline : r.json m = some line) :
    World.Consoles s stream m (t ++ if s.level ≤ r.level then line ++ [Point.lineFeed] else [])
      (w.emit r) := by
  obtain ⟨place, hgoverned⟩ := h.governed
  have hstyle : (s.consoleSink stream).style.line? w.moment r =
      some (line ++ [Point.lineFeed]) := by
    rw [LogSettings.consoleSink, hjson, if_pos rfl, h.moment, RecordStyle.line?, hline]
    rfl
  have hwrite : (w.stream s.channel).write (line ++ [Point.lineFeed]) =
      .ok ((w.stream s.channel).adding (line ++ [Point.lineFeed])) := by
    have hnot : (w.stream s.channel).policy ≠ .strict := by rwa [h.written]
    obtain ⟨o, ho⟩ := Stream.exists_write_eq_ok (t := line ++ [Point.lineFeed]) fun hstrict =>
      absurd hstrict hnot
    rw [ho, Stream.eq_adding_of_write ho]
  have hfiles : ∀ (ps : List Place) (u : World),
      ((ps.map s.fileSink).foldl (World.emitTo r) u).stream s.channel = u.stream s.channel := by
    intro ps
    induction ps with
    | nil => exact fun _ => rfl
    | cons p ps ih => exact fun u => (ih _).trans (World.stream_emitTo_fileSink s r u p _)
  refine ⟨⟨place, (World.Governed.recorded s stream place).emit r w hgoverned⟩,
    (World.moment_emit r w).trans h.moment, ?_⟩
  rw [hgoverned.emit_eq r, hfiles, World.emitTo_console rfl hstyle hwrite]
  change (if s.level ≤ r.level then _ else w).stream s.channel = _
  split_ifs with hlevel
  · rw [World.stream_putStream, if_pos rfl, h.written, Stream.adding_adding]
  · rw [h.written, List.append_nil]

/-- **The lines of many records.** -/
theorem World.Consoles.foldl_emit (h : World.Consoles s stream m t w) (hjson : s.json = true)
    (hpolicy : stream.policy ≠ .strict) {f : TextRecord → Text}
    (hf : ∀ r : TextRecord, r.record.json m = some (f r)) (rs : List TextRecord) :
    World.Consoles s stream m
      (t ++ (s.shown rs).flatMap fun r => f r ++ [Point.lineFeed])
      ((rs.map TextRecord.record).foldl (fun v r => v.emit r) w) := by
  induction rs generalizing t w with
  | nil => rwa [LogSettings.shown, List.filter_nil, List.flatMap_nil, List.append_nil]
  | cons r rs ih =>
    have hrest := ih (h.emit hjson hpolicy (hf r))
    rw [List.append_assoc] at hrest
    rw [LogSettings.shown, List.filter_cons, List.map_cons, List.foldl_cons]
    by_cases hlevel : s.level ≤ r.record.level
    · rw [if_pos hlevel] at hrest
      rwa [if_pos (decide_eq_true hlevel), List.flatMap_cons]
    · rw [if_neg hlevel] at hrest
      rwa [if_neg fun h => hlevel (of_decide_eq_true h)]

/-- The records of a setup itself. -/
def TextRecord.greetings (s : LogSettings) {process : Nat} (h : process < Numeral.limit) :
    List TextRecord := [
  ⟨⟨Level.debug, mainLogger, "logger", ⟨"Logger initialized (level=%s, pid=%s)",
    [.text s.level.name, .nat process]⟩, [], none⟩, _, [], fill_initialized s.level.name h, rfl⟩,
  ⟨⟨Level.trace, mainLogger, "logger", .plain "TRACE enabled", [], none⟩, _, [], rfl, rfl⟩]

theorem TextRecord.map_record_greetings (s : LogSettings) {process : Nat}
    (h : process < Numeral.limit) :
    (greetings s h).map TextRecord.record = Run.greetings s process := rfl

/-- **The lines after a setup** and records. -/
theorem World.Consoles.of_setUp (hsetup : ((Run.setUpLog s).after w).1 = .ok ())
    (hprocess : w.process < Numeral.limit) (hjson : s.json = true)
    (hpolicy : (w.stream s.channel).policy ≠ .strict) {f : TextRecord → Text}
    (hf : ∀ r : TextRecord, r.record.json w.moment = some (f r)) (rs : List TextRecord) :
    World.Consoles s (w.stream s.channel) w.moment
      ((s.shown (TextRecord.greetings s hprocess ++ rs)).flatMap fun r => f r ++ [Point.lineFeed])
      (w.afterCalls (.setUp s :: rs.map fun r => .record r.record)) := by
  have hprepare := Run.triple_prepareLog_governed
    (K := fun v => v.moment = w.moment ∧ v.stream s.channel = w.stream s.channel ∧
      v.process = w.process) (fun _ _ h => h) (fun _ _ h => h) s (w := w) ⟨rfl, rfl, rfl⟩ w rfl
  have hcalls : ∀ v : World, v.afterCalls (rs.map fun r => .record r.record) =
      (rs.map TextRecord.record).foldl (fun v r => v.emit r) v := by
    intro v
    rw [World.afterCalls, List.foldl_map, List.foldl_map]
    rfl
  rw [World.afterCalls, List.foldl_cons]
  change World.Consoles _ _ _ _ (World.afterCalls ((Run.setUpLog s).after w).2 _)
  rw [hcalls]
  rw [Run.setUpLog_eq, Run.after_bind] at hsetup ⊢
  cases hafter : (Run.prepareLog s).after w with
  | mk result v =>
    rw [hafter] at hprepare hsetup
    cases result with
    | error e => cases hsetup
    | ok _ =>
      obtain ⟨place, -, hgoverned, hmoment, hstream, hprocess'⟩ := hprepare
      have hstart : World.Consoles s (w.stream s.channel) w.moment [] v :=
        ⟨⟨place, hgoverned⟩, hmoment, by rw [hstream, Stream.adding_nil]⟩
      have hlines := hstart.foldl_emit hjson hpolicy hf (TextRecord.greetings s hprocess ++ rs)
      rw [List.nil_append, List.map_append, List.foldl_append,
        TextRecord.map_record_greetings] at hlines
      have hgreeted : ((modify fun v => (Run.greetings s v.process).foldl (fun v r => v.emit r) v :
          Run Unit).after v).2 = (Run.greetings s v.process).foldl (fun v r => v.emit r) v := rfl
      dsimp only
      rw [hgreeted, hprocess']
      exact hlines

end

/-- A world whose messages go to a stream in some encoding. -/
def World.speaking (e : Encoding) : World where
  disk := .empty []
  home := "/"
  moment := ⟨0⟩
  process := 0
  input := .text []
  output := ⟨.strict, false, []⟩
  messages := ⟨.escaping e, false, []⟩
  log := .initial

/-- A record of a message with a context. -/
def TextRecord.telling (message file : Text) : TextRecord where
  record := ⟨Level.error, mainLogger, "main", .plain message, [("file", .text file)], none⟩
  message := message
  context := [("file", file)]
  fill_eq := rfl
  context_eq := rfl

end HiveScript
