import HiveScript.Log.Emission
import HiveScript.Proofs.Json.Writing

/-!
# Lines of records

A record whose message can be made, and that holds no surrogates, has a line for people or in JSON,
and the line holds none either.

* `Record.IsWhole`: such records.
* `isWhole_plain`, `isWhole_json`: the line for people and the JSON object.
* **`RecordStyle.exists_line?_eq`**: the line of any style.
-/

namespace HiveScript

/-- The style writes JSON. -/
def RecordStyle.isJson : RecordStyle → Bool
  | .plain _ => false
  | .json => true

/-- The message can be made, the context can be told for people or in JSON, and there are no
surrogates. -/
structure Record.IsWhole (json : Bool) (r : Record) : Prop where
  message : ∃ t, r.message.fill = some t ∧ t.IsWhole
  logger : r.logger.IsWhole
  source : r.source.IsWhole
  shown : json = false → ∃ t, Record.contextText? r.context = some t ∧ t.IsWhole
  told : json = true → ∃ t, Json.write .line 1 (.object r.context) = .ok t ∧ t.IsWhole
  trouble : ∀ e ∈ r.trouble, e.1.IsWhole ∧ e.2.IsWhole

/-! ## Parts of lines -/

theorem Moment.isBasic_clock (m : Moment) : m.clock.IsBasic := by
  have htwo : ∀ n, (two n).IsBasic := Numeral.isBasic_padded (by decide) (by decide) 2
  have hcolon : Text.IsBasic ":" := by decide
  exact ((((htwo _).append hcolon).append (htwo _)).append hcolon).append (htwo _)

theorem Moment.isBasic_fineClock (m : Moment) : m.fineClock.IsBasic :=
  (m.isBasic_clock.append (by decide)).append (Numeral.isBasic_padded (by decide) (by decide) 3 _)

theorem Moment.isBasic_stamp (m : Moment) : m.stamp.IsBasic := by
  have htwo : ∀ n, (two n).IsBasic := Numeral.isBasic_padded (by decide) (by decide) 2
  have hhyphen : Text.IsBasic "-" := by decide
  have hyear : ∀ n, (Numeral.padded 10 4 n).IsBasic :=
    Numeral.isBasic_padded (by decide) (by decide) 4
  have hdate : m.date.IsBasic :=
    ((((hyear _).append hhyphen).append (htwo _)).append hhyphen).append (htwo _)
  exact ((hdate.append (by decide)).append m.isBasic_fineClock).append (by decide)

namespace Level

theorem isBasic_named : ∀ n ∈ named, (n.name : Text).IsBasic := by decide +kernel

theorem isBasic_name (l : Level) : (name l).IsBasic := by
  rw [name]
  cases hn : named? l with
  | some n => exact isBasic_named n (List.mem_of_find?_eq_some hn)
  | none =>
    dsimp only
    split_ifs
    · decide
    · exact Text.IsBasic.append (by decide) (Numeral.isBasic_ofInt l)

theorem isWhole_marks : ∀ n ∈ named, (n.mark : Text).IsWhole := by decide +kernel

theorem isWhole_mark (l : Level) : (mark l).IsWhole := by
  rw [mark]
  cases hn : named? l with
  | some n => exact isWhole_marks n (List.mem_of_find?_eq_some hn)
  | none => decide

end Level

theorem isAscii_styleSequence (n : Nat) : (styleSequence n).IsAscii := by
  have hnumber := (Numeral.isBasic_decimal n).isAscii
  exact List.forall_mem_cons.mpr ⟨by decide,
    Text.IsAscii.append (Text.IsAscii.append (by decide) hnumber) (by decide)⟩

theorem Text.IsWhole.paint {s : Text} (hs : s.IsWhole) (enable : Bool) (colour : Option Nat)
    (bold : Bool) : (paint enable colour bold s).IsWhole := by
  unfold HiveScript.paint
  split
  · refine (Text.IsWhole.append ?_ hs).append (isAscii_styleSequence 0).isWhole
    refine Text.IsWhole.append ?_ (isAscii_styleSequence _).isWhole
    split_ifs
    · exact (isAscii_styleSequence 1).isWhole
    · exact nofun
  · exact hs

namespace Record

variable {r : Record}

theorem isWhole_troubleText {class_ text : Text} (hclass : class_.IsWhole) (htext : text.IsWhole) :
    (troubleText class_ text).IsWhole := by
  rw [troubleText]
  split_ifs
  · exact hclass
  · exact (hclass.append (by decide)).append htext

/-! ## Styles -/

theorem isWhole_plain (h : r.IsWhole false) (style : LineStyle) (m : Moment) :
    ∃ t, r.plain style m = some t ∧ t.IsWhole := by
  obtain ⟨message, hfill, hmessage⟩ := h.message
  obtain ⟨context, hshown, hcontext⟩ := h.shown rfl
  refine ⟨_, by rw [plain, hfill, hshown]; rfl, ?_⟩
  have hspace : Text.IsWhole " " := by decide
  refine ((((((((Text.IsWhole.append ?_ hspace).append ?_).append hspace).append ?_).append
    ?_).append hspace).append ?_).append hcontext).append ?_
  · split_ifs
    · exact m.isBasic_fineClock.isAscii.isWhole
    · exact m.isBasic_clock.isAscii.isWhole
  · split_ifs
    · exact r.level.isWhole_mark
    · decide
  · exact Text.IsWhole.paint (r.level.isBasic_name.isAscii.isWhole.padRight rfl 8) _ _ _
  · split_ifs
    · exact (((Text.IsWhole.append (by decide) h.logger).append hspace).append h.source).append
        (by decide)
    · exact List.forall_mem_nil _
  · split_ifs
    · exact hmessage.paint _ _ _
    · exact hmessage
  · cases htrouble : r.trouble with
    | none => exact List.forall_mem_nil _
    | some e =>
      obtain ⟨class_, text⟩ := e
      obtain ⟨hclass, htext⟩ := h.trouble (class_, text) htrouble
      have hlines := Text.forall_mem_brokenLines (isWhole_troubleText hclass htext)
      refine List.forall_mem_cons.mpr ⟨rfl, Text.IsWhole.paint ?_ _ _ _⟩
      refine Text.IsWhole.join (by decide) (List.forall_mem_map.mpr fun l hl => ?_)
      exact List.forall_mem_cons.mpr ⟨rfl, List.forall_mem_cons.mpr ⟨rfl, hlines l hl⟩⟩

theorem isWhole_json (h : r.IsWhole true) (m : Moment) : ∃ t, r.json m = some t ∧ t.IsWhole := by
  obtain ⟨message, hfill, hmessage⟩ := h.message
  have hfields : ∀ e ∈ r.fields m message, e.1.IsWhole ∧ Json.WritesWhole .line 1 e.2 := by
    have htext : ∀ {s : Text}, s.IsWhole → Json.WritesWhole .line 1 (.text s) :=
      fun hs => Json.writesWhole_text .line 1 hs
    have hzero : Json.WritesWhole .line 1 (.nat 0) :=
      ⟨Numeral.decimal 0, Json.write_nat Numeral.limit_pos .line 1, by decide⟩
    refine List.forall_mem_append.mpr ⟨List.forall_mem_append.mpr ⟨?_, ?_⟩, ?_⟩
    · simp only [List.forall_mem_cons]
      exact ⟨⟨by decide, htext m.isBasic_stamp.isAscii.isWhole⟩,
        ⟨by decide, htext r.level.isBasic_name.isAscii.isWhole⟩,
        ⟨by decide, htext h.logger⟩, ⟨by decide, htext hmessage⟩, ⟨by decide, htext h.source⟩,
        ⟨by decide, hzero⟩, nofun⟩
    · split_ifs
      · exact nofun
      · exact List.forall_mem_singleton.mpr ⟨(by decide : Text.IsWhole "ctx"), h.told rfl⟩
    · cases htrouble : r.trouble with
      | none => exact nofun
      | some e =>
        obtain ⟨hclass, htext'⟩ := h.trouble e htrouble
        simp only [List.forall_mem_cons]
        exact ⟨⟨by decide, htext hclass⟩, ⟨by decide, htext (isWhole_troubleText hclass htext')⟩,
          nofun⟩
  obtain ⟨t, ht, hwhole⟩ := Json.writesWhole_object hfields
  refine ⟨t, ?_, hwhole⟩
  have hline : Json.line (.object (r.fields m message)) = .ok t := ht
  rw [json, hfill, Option.bind_eq_bind, Option.bind_some, hline]
  rfl

end Record

/-- **The line of a record** in a style that fits it. -/
theorem RecordStyle.exists_line?_eq {r : Record} {style : RecordStyle} (h : r.IsWhole style.isJson)
    (m : Moment) : ∃ line, style.line? m r = some line ∧ line.IsWhole := by
  have hfeed : Text.IsWhole [Point.lineFeed] := by decide
  cases style with
  | plain style =>
    obtain ⟨t, ht, hwhole⟩ := Record.isWhole_plain h style m
    exact ⟨t ++ [Point.lineFeed], by rw [line?, ht]; rfl, hwhole.append hfeed⟩
  | json =>
    obtain ⟨t, ht, hwhole⟩ := Record.isWhole_json h m
    exact ⟨t ++ [Point.lineFeed], by rw [line?, ht]; rfl, hwhole.append hfeed⟩

/-- A record of a message alone. -/
theorem Record.isWhole_of_message {r : Record} {t : Text} (hfill : r.message.fill = some t)
    (ht : t.IsWhole) (hlogger : r.logger.IsWhole) (hsource : r.source.IsWhole)
    (hcontext : r.context = []) (htrouble : r.trouble = none) (json : Bool) : r.IsWhole json where
  message := ⟨t, hfill, ht⟩
  logger := hlogger
  source := hsource
  shown _ := ⟨[], by simp [hcontext, contextText?, sortNamed], nofun⟩
  told _ := by rw [hcontext]; exact ⟨_, rfl, by decide⟩
  trouble := by rw [htrouble]; exact nofun

end HiveScript
