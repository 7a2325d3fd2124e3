import HiveScript.Proofs.Options.Values
import HiveScript.Proofs.Text.Parts

/-!
# Arguments that are read twice

A command line is read twice: first with the switches that say where configurations are and what is
to be told, then with all of them. To the early reading the other switches are arguments that it
does not know. There is one that it mistakes for a switch of its own: the whole name `--json`
abbreviates `--json-logs` there.

* `switchNamed?_early_of_some`, `switchNamed?_early_of_none`: the names of both readings.
* `perm_readings_early`: the names that an argument may abbreviate.
* `Argument.Seen`: how an argument of the full reading looks to the early one.
* **`Argument.exists_seen_ofText`**: every argument looks like that.
-/

namespace HiveScript

open Catalogue (full early)

/-- The use of a switch that only the full reading knows, and that is not mistaken. -/
structure SwitchUse.Late (use : SwitchUse) : Prop where
  mem : use.switch ∈ full.switches
  not_mem : use.switch ∉ early.switches
  ne_json : use.switch ≠ Catalogue.json
  shortName : use.isShort = true → use.switch.shortName ≠ none

/-! ## Names -/

namespace Argument

theorem switchNamed?_eq_some {switches : List Switch} {name : Text} {w : Switch} {isShort : Bool}
    (h : switchNamed? switches name = some (w, isShort)) :
    w ∈ switches ∧ name ∈ w.names ∧ isShort = decide (w.shortName = some name) := by
  obtain ⟨w', hw', heq⟩ := Option.map_eq_some_iff.mp h
  obtain ⟨rfl, rfl⟩ := Prod.ext_iff.mp heq
  have hnames := List.find?_some hw'
  exact ⟨List.mem_of_find?_eq_some hw', by simpa using hnames, rfl⟩

theorem switchNamed?_eq_none {switches : List Switch} {name : Text}
    (h : switchNamed? switches name = none) : ∀ w ∈ switches, name ∉ w.names := by
  intro w hw hname
  have hfind := Option.map_eq_none_iff.mp h
  exact List.find?_eq_none.mp hfind w hw (by simpa using hname)

theorem mem_full_of_mem_early : ∀ w ∈ early.switches, w ∈ full.switches := by
  decide +kernel

/-- The names of the early switches are theirs alone. -/
theorem switchNamed?_early : ∀ w ∈ early.switches, ∀ name ∈ w.names,
    switchNamed? early.switches name = some (w, decide (w.shortName = some name)) := by
  decide +kernel

/-- No name of another switch is one of theirs. -/
theorem switchNamed?_late : ∀ w ∈ full.switches, w ∉ early.switches → ∀ name ∈ w.names,
    switchNamed? early.switches name = none := by
  decide +kernel

theorem switchNamed?_early_of_some {name : Text} {w : Switch} {isShort : Bool}
    (h : switchNamed? full.switches name = some (w, isShort)) :
    switchNamed? early.switches name =
      if w ∈ early.switches then some (w, isShort) else none := by
  obtain ⟨hw, hname, rfl⟩ := switchNamed?_eq_some h
  split_ifs with hearly
  · exact switchNamed?_early w hearly name hname
  · exact switchNamed?_late w hw hearly name hname

theorem switchNamed?_early_of_none {name : Text} (h : switchNamed? full.switches name = none) :
    switchNamed? early.switches name = none := by
  rw [Option.eq_none_iff_forall_ne_some]
  rintro ⟨w, isShort⟩ hearly
  obtain ⟨hw, hname, -⟩ := switchNamed?_eq_some hearly
  exact switchNamed?_eq_none h w (mem_full_of_mem_early w hw) hname

/-! ## Arguments -/

/-- An argument that the full reading takes as `a` is `b` to the early one. -/
inductive Seen : Argument → Argument → Prop
  | operand (s : Text) : Seen (.operand s) (.operand s)
  | divider : Seen .divider .divider
  | unknown (s : Text) : Seen (.unknown s) (.unknown s)
  /-- An early switch. -/
  | known {use : SwitchUse} (h : use.switch ∈ early.switches) : Seen (.option use) (.option use)
  /-- Another switch, which is passed over. -/
  | passed {use : SwitchUse} (h : use.Late) {b : Argument} (s : Text)
      (hb : b = .unknown s ∨ b = .operand s) : Seen (.option use) b
  /-- The name of one switch abbreviates that of another. -/
  | mistaken (attached : Option Text) : Seen (.option ⟨Catalogue.json, false, attached⟩)
      (.option ⟨Catalogue.jsonLogs, false, attached⟩)

/-! ## Readings -/

theorem longReadings_cons (w : Switch) (ws : List Switch) (s : Text) :
    longReadings (w :: ws) s = longReadings [w] s ++ longReadings ws s := by
  unfold longReadings
  simp only [List.filter_cons, List.filter_nil]
  split_ifs <;> rfl

theorem shortReadings_cons (w : Switch) (ws : List Switch) (s : Text) :
    shortReadings (w :: ws) s = shortReadings [w] s ++ shortReadings ws s := by
  simp only [shortReadings, List.filterMap_cons, List.filterMap_nil]
  split <;> rfl

theorem readings_cons (w : Switch) (ws : List Switch) (s : Text) :
    readings (w :: ws) s = readings [w] s ++ readings ws s := by
  unfold readings
  split_ifs
  · exact longReadings_cons w ws s
  · exact shortReadings_cons w ws s

theorem switch_eq_of_mem_readings {w : Switch} {s : Text} {r : Reading} (h : r ∈ readings [w] s) :
    r.use.switch = w := List.mem_singleton.mp (mem_of_mem_readings h)

theorem shortName_ne_none_of_mem_readings {ws : List Switch} {s : Text} {r : Reading}
    (h : r ∈ readings ws s) (hshort : r.use.isShort = true) : r.use.switch.shortName ≠ none := by
  unfold readings at h
  split_ifs at h
  · obtain ⟨w, -, rfl⟩ := List.mem_map.mp h
    cases hshort
  · obtain ⟨w, -, hw⟩ := List.mem_filterMap.mp h
    split at hw
    · next name hname =>
      obtain ⟨attached, -, rfl⟩ := Option.map_eq_some_iff.mp hw
      exact hname ▸ Option.some_ne_none name
    · cases hw

theorem readings_filter (p : Switch → Bool) (ws : List Switch) (s : Text) :
    readings (ws.filter p) s = (readings ws s).filter fun r => p r.use.switch := by
  induction ws with
  | nil =>
    unfold readings
    split_ifs <;> rfl
  | cons w ws ih =>
    rw [readings_cons, List.filter_append, ← ih]
    by_cases hw : p w = true
    · have hkeep : (readings [w] s).filter (fun r => p r.use.switch) = readings [w] s :=
        List.filter_eq_self.mpr fun r hr => by rw [switch_eq_of_mem_readings hr, hw]
      rw [List.filter_cons_of_pos hw, readings_cons, hkeep]
    · have hdrop : (readings [w] s).filter (fun r => p r.use.switch) = [] :=
        List.filter_eq_nil_iff.mpr fun r hr => by rwa [switch_eq_of_mem_readings hr]
      rw [List.filter_cons_of_neg hw, hdrop, List.nil_append]

theorem readings_perm {ws ws' : List Switch} (h : ws.Perm ws') (s : Text) :
    (readings ws s).Perm (readings ws' s) := by
  induction h with
  | nil => exact .rfl
  | @cons w ws ws' _ ih =>
    rw [readings_cons w ws, readings_cons w ws']
    exact ih.append_left _
  | swap w w' ws =>
    rw [readings_cons w' (w :: ws), readings_cons w ws, readings_cons w (w' :: ws),
      readings_cons w' ws, ← List.append_assoc, ← List.append_assoc]
    exact List.perm_append_comm.append_right _
  | trans _ _ ih ih' => exact ih.trans ih'

/-- The early readings of an argument are the full ones of early switches, in some order. -/
theorem perm_readings_early (s : Text) :
    (readings early.switches s).Perm
      ((readings full.switches s).filter fun r => r.use.switch ∈ early.switches) := by
  have hperm : early.switches.Perm (full.switches.filter (· ∈ early.switches)) := by
    decide +kernel
  have hfilter := readings_filter (fun w => decide (w ∈ early.switches)) full.switches s
  exact hfilter ▸ readings_perm hperm s

/-- What abbreviates one switch abbreviates one that is called like it and some more. -/
theorem ne_json_of_readings {s : Text} {r : Reading} (h : readings full.switches s = [r]) :
    r.use.switch ≠ Catalogue.json := by
  have hr : r ∈ readings full.switches s := h ▸ List.mem_singleton_self r
  intro hjson
  have hother : ∃ r' ∈ readings full.switches s, r'.use.switch = Catalogue.jsonLogs := by
    unfold readings at hr ⊢
    split_ifs at hr ⊢
    · rw [longReadings] at hr ⊢
      obtain ⟨w, hw, rfl⟩ := List.mem_map.mp hr
      obtain rfl : w = Catalogue.json := hjson
      have hbegins := (List.mem_filter.mp hw).2
      have hmore : Catalogue.json.longName <+: Catalogue.jsonLogs.longName := by decide
      have hmem : Catalogue.jsonLogs ∈ full.switches := by decide
      refine ⟨_, List.mem_map.mpr ⟨Catalogue.jsonLogs, List.mem_filter.mpr ⟨hmem, ?_⟩, rfl⟩, rfl⟩
      rw [Text.beginsWith_iff] at hbegins ⊢
      exact hbegins.trans hmore
    · obtain ⟨w, -, hw⟩ := List.mem_filterMap.mp hr
      split at hw
      · next name hname =>
        obtain ⟨attached, -, rfl⟩ := Option.map_eq_some_iff.mp hw
        obtain rfl : w = Catalogue.json := hjson
        cases hname
      · cases hw
  obtain ⟨r', hr', hlogs⟩ := hother
  rw [h, List.mem_singleton] at hr'
  rw [hr', hjson] at hlogs
  exact absurd hlogs (by decide)

/-! ## What the early reading sees -/

theorem exists_seen_ofHyphened {s : Text} {a : Argument} (h : ofHyphened full.switches s = .ok a) :
    ∃ b, ofHyphened early.switches s = .ok b ∧ Seen a b := by
  have hperm := perm_readings_early s
  rw [ofHyphened] at h
  split at h
  · next r hr =>
    obtain rfl := Except.ok.inj h
    rw [hr] at hperm
    by_cases hknown : r.use.switch ∈ early.switches
    · rw [List.filter_cons_of_pos (by simpa using hknown), List.filter_nil,
        List.perm_singleton] at hperm
      exact ⟨_, by rw [ofHyphened, hperm], .known hknown⟩
    · rw [List.filter_cons_of_neg (by simpa using hknown), List.filter_nil, List.perm_nil] at hperm
      have hmem : r ∈ readings full.switches s := hr ▸ List.mem_singleton_self r
      have hlate : r.use.Late := ⟨mem_of_mem_readings hmem, hknown, ne_json_of_readings hr,
        shortName_ne_none_of_mem_readings hmem⟩
      refine ⟨_, by rw [ofHyphened, hperm], .passed hlate s ?_⟩
      split_ifs
      · exact .inr rfl
      · exact .inl rfl
  · cases h
  · next hr =>
    rw [hr, List.filter_nil, List.perm_nil] at hperm
    obtain rfl := Except.ok.inj h
    refine ⟨_, by rw [ofHyphened, hperm], ?_⟩
    split_ifs
    · exact .operand s
    · exact .unknown s

/-- The name of a switch that the early reading does not know. -/
theorem ofText_late : ∀ w ∈ full.switches, w ∉ early.switches → ∀ name ∈ w.names,
    ofText early.switches name = .ok (if w = Catalogue.json
      then .option ⟨Catalogue.jsonLogs, false, none⟩ else .unknown name) := by
  decide +kernel

/-- Such names are long, or a letter. -/
theorem names_late : ∀ w ∈ full.switches, w ∉ early.switches → ∀ name ∈ w.names,
    (Text.beginsWith "--" name ∧ Point.ofChar '=' ∉ name ∧
      early.switches.filter (fun w => Text.beginsWith name w.longName) =
        if w = Catalogue.json then [Catalogue.jsonLogs] else []) ∨
    (w ≠ Catalogue.json ∧ (name = "-h" ∨ name = "-o")) := by
  decide +kernel

/-- Such a name with an argument in place. -/
theorem readings_late {w : Switch} (hw : w ∈ full.switches) (hlate : w ∉ early.switches)
    {name : Text} (hname : name ∈ w.names) (attached : Text) :
    readings early.switches (name ++ Point.ofChar '=' :: attached) =
      if w = Catalogue.json then
        [⟨Catalogue.jsonLogs.longName, ⟨Catalogue.jsonLogs, false, some attached⟩⟩]
      else [] := by
  rcases names_late w hw hlate name hname with ⟨hlong, hequals, hbegins⟩ | ⟨hjson, rfl | rfl⟩
  · have hlong' : Text.beginsWith "--" (name ++ Point.ofChar '=' :: attached) = true := by
      rw [Text.beginsWith_iff] at hlong ⊢
      exact hlong.trans (List.prefix_append _ _)
    rw [readings, if_pos hlong', longReadings, Text.cut?_append_cons hequals]
    dsimp only
    rw [hbegins]
    split_ifs <;> rfl
  · rw [if_neg hjson]
    rfl
  · rw [if_neg hjson]
    rfl

/-- A named switch with an argument in place is known, is passed over, or is mistaken. -/
theorem exists_seen_attached {name attached : Text} {w : Switch} {isShort : Bool}
    (h : switchNamed? full.switches name = some (w, isShort)) (hlate : w ∉ early.switches) :
    ∃ b, ofHyphened early.switches (name ++ Point.ofChar '=' :: attached) = .ok b ∧
      Seen (.option ⟨w, isShort, some attached⟩) b := by
  obtain ⟨hw, hname, rfl⟩ := switchNamed?_eq_some h
  have hreadings := readings_late hw hlate hname attached
  by_cases hjson : w = Catalogue.json
  · subst hjson
    rw [if_pos rfl] at hreadings
    exact ⟨_, by rw [ofHyphened, hreadings], .mistaken (some attached)⟩
  · rw [if_neg hjson] at hreadings
    refine ⟨_, by rw [ofHyphened, hreadings],
      .passed ⟨hw, hlate, hjson, ?_⟩ (name ++ Point.ofChar '=' :: attached) ?_⟩
    · exact fun hshort => by simp [of_decide_eq_true hshort]
    split_ifs
    · exact .inr rfl
    · exact .inl rfl

/-- **How an argument of the full reading looks to the early one.** -/
theorem exists_seen_ofText {s : Text} {a : Argument} (h : ofText full.switches s = .ok a) :
    ∃ b, ofText early.switches s = .ok b ∧ Seen a b := by
  by_cases hhead : s.head? ≠ some (Point.ofChar '-')
  · rw [ofText, if_pos hhead] at h
    obtain rfl := Except.ok.inj h
    exact ⟨.operand s, by rw [ofText, if_pos hhead], .operand s⟩
  cases hnamed : switchNamed? full.switches s with
  | some named =>
    obtain ⟨w, isShort⟩ := named
    rw [ofText, if_neg hhead, hnamed] at h
    obtain rfl := Except.ok.inj h
    obtain ⟨hw, hname, rfl⟩ := switchNamed?_eq_some hnamed
    by_cases hknown : w ∈ early.switches
    · refine ⟨_, ?_, .known hknown⟩
      rw [ofText, if_neg hhead, switchNamed?_early w hknown s hname]
    · refine ⟨_, ofText_late w hw hknown s hname, ?_⟩
      split_ifs with hjson
      · subst hjson
        exact .mistaken none
      · have hshort : decide (w.shortName = some s) = true → w.shortName ≠ none :=
          fun hshort => by simp [of_decide_eq_true hshort]
        exact .passed ⟨hw, hknown, hjson, hshort⟩ s (.inl rfl)
  | none =>
    have hearly := switchNamed?_early_of_none hnamed
    rw [ofText, if_neg hhead, hnamed] at h
    rw [ofText, if_neg hhead, hearly]
    dsimp only at h ⊢
    split_ifs at h ⊢
    · obtain rfl := Except.ok.inj h
      exact ⟨_, rfl, .operand s⟩
    · cases hcut : Text.cut? (Point.ofChar '=') s with
      | none =>
        rw [hcut] at h
        exact exists_seen_ofHyphened h
      | some parts =>
        obtain ⟨name, attached⟩ := parts
        rw [hcut] at h
        dsimp only at h ⊢
        cases hpart : switchNamed? full.switches name with
        | none =>
          rw [hpart] at h
          rw [switchNamed?_early_of_none hpart]
          exact exists_seen_ofHyphened h
        | some named =>
          obtain ⟨w, isShort⟩ := named
          rw [hpart] at h
          obtain rfl := Except.ok.inj h
          rw [switchNamed?_early_of_some hpart]
          by_cases hknown : w ∈ early.switches
          · rw [if_pos hknown]
            exact ⟨_, rfl, .known hknown⟩
          · rw [if_neg hknown, (Text.cut?_eq_some_iff.mp hcut).1]
            exact exists_seen_attached hpart hknown

/-- How all arguments look. -/
theorem exists_seen_list {ss : List Text} {as : List Argument}
    (h : list full.switches ss = .ok as) :
    ∃ bs, list early.switches ss = .ok bs ∧ List.Forall₂ Seen as bs := by
  induction ss generalizing as with
  | nil =>
    obtain rfl := Except.ok.inj h
    exact ⟨[], rfl, .nil⟩
  | cons s ss ih =>
    rw [list] at h
    split_ifs at h with hdivider
    · obtain rfl := Except.ok.inj h
      refine ⟨_, by rw [list, if_pos hdivider], .cons .divider ?_⟩
      rw [List.forall₂_map_left_iff, List.forall₂_map_right_iff, List.forall₂_same]
      exact fun s _ => .operand s
    · obtain ⟨a, ha, h⟩ := exists_of_bind_eq_ok h
      obtain ⟨as', has, h⟩ := exists_of_bind_eq_ok h
      obtain rfl := Except.ok.inj h
      obtain ⟨b, hb, hab⟩ := exists_seen_ofText ha
      obtain ⟨bs, hbs, hall⟩ := ih has
      refine ⟨b :: bs, ?_, .cons hab hall⟩
      rw [list, if_neg hdivider, hb, hbs]
      rfl

end Argument

end HiveScript
