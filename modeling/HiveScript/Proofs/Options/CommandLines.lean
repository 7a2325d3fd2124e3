import HiveScript.Options.Catalogue
import Mathlib.Data.List.Basic

/-!
# Command lines over the defaults

The switches that a command line gives are among those that it may give. The values in settings that
began with the defaults are of the type that their switches leave, so that each switch can be given,
however often.

* `Given.Known`, **`CommandLine.known_of_ofTexts`**: what a command line gives.
* `Settings.Fits`, **`Settings.Fits.exists_giveAll`**: the types of settings.
* **`Synopsis.exists_finish_eq_ok`**: a command line over such settings always comes to something.
-/

namespace HiveScript

/-! ## Switches that are given -/

namespace Argument

variable {switches : List Switch} {s : Text} {use : SwitchUse}

theorem mem_of_switchNamed? {w : Switch} {isShort : Bool}
    (h : switchNamed? switches s = some (w, isShort)) : w ∈ switches := by
  obtain ⟨w', hw', heq⟩ := Option.map_eq_some_iff.mp h
  obtain ⟨rfl, -⟩ := Prod.ext_iff.mp heq
  exact List.mem_of_find?_eq_some hw'

theorem mem_of_mem_readings {r : Reading} (h : r ∈ readings switches s) :
    r.use.switch ∈ switches := by
  rw [readings] at h
  split_ifs at h
  · obtain ⟨w, hw, rfl⟩ := List.mem_map.mp h
    exact (List.mem_filter.mp hw).1
  · obtain ⟨w, hw, hr⟩ := List.mem_filterMap.mp h
    split at hr
    · obtain ⟨attached, -, rfl⟩ := Option.map_eq_some_iff.mp hr
      exact hw
    · cases hr

theorem mem_of_ofHyphened (h : ofHyphened switches s = .ok (.option use)) :
    use.switch ∈ switches := by
  rw [ofHyphened] at h
  split at h
  · next r hr =>
    obtain rfl := Argument.option.inj (Except.ok.inj h)
    exact mem_of_mem_readings (hr ▸ List.mem_singleton_self r)
  · cases h
  · split_ifs at h <;> cases h

theorem mem_of_ofText (h : ofText switches s = .ok (.option use)) : use.switch ∈ switches := by
  rw [ofText] at h
  split_ifs at h with hhead hlength
  · cases h
  · split at h
    · next w isShort hw =>
      obtain rfl := Argument.option.inj (Except.ok.inj h)
      exact mem_of_switchNamed? hw
    · cases h
  · split at h
    · next w isShort hw =>
      obtain rfl := Argument.option.inj (Except.ok.inj h)
      exact mem_of_switchNamed? hw
    · split at h
      · split at h
        · next w isShort hw =>
          obtain rfl := Argument.option.inj (Except.ok.inj h)
          exact mem_of_switchNamed? hw
        · exact mem_of_ofHyphened h
      · exact mem_of_ofHyphened h

/-- **The options of a command line are switches of it.** -/
theorem mem_of_list {ss : List Text} {as : List Argument} (h : list switches ss = .ok as)
    (huse : .option use ∈ as) : use.switch ∈ switches := by
  induction ss generalizing as with
  | nil =>
    obtain rfl := Except.ok.inj h
    cases huse
  | cons s ss ih =>
    rw [list] at h
    split_ifs at h
    · obtain rfl := Except.ok.inj h
      rcases List.mem_cons.mp huse with huse | huse
      · cases huse
      · obtain ⟨_, -, huse⟩ := List.mem_map.mp huse
        cases huse
    · cases ha : ofText switches s with
      | error e =>
        rw [ha] at h
        cases h
      | ok a =>
        cases hrest : list switches ss with
        | error e =>
          rw [ha, hrest] at h
          cases h
        | ok rest =>
          rw [ha, hrest] at h
          obtain rfl := Except.ok.inj h
          rcases List.mem_cons.mp huse with rfl | huse
          · exact mem_of_ofText ha
          · exact ih hrest huse

end Argument

/-! ## Command lines -/

/-- An argument that a switch can be given: a text, or what the divider stands for. -/
def Value.IsArgument (v : Value) : Prop := v = .list [] ∨ ∃ s, v = .text s

/-- A switch of some, with an argument if it takes one. -/
structure Given.Known (switches : List Switch) (g : Given) : Prop where
  mem : g.switch ∈ switches
  argument : ∀ v ∈ g.argument, v.IsArgument

namespace CommandLine

variable {switches : List Switch}

theorem isArgument_attachedValue (s : Text) : (attachedValue s).IsArgument := by
  rw [attachedValue]
  split_ifs
  · exact .inl rfl
  · exact .inr ⟨s, rfl⟩

/-- What options amount to that were opened: switches that are given, and maybe one that waits. -/
def Opened.Known (switches : List Switch) (o : Opened) : Prop :=
  (∀ g ∈ o.given, g.Known switches) ∧ ∀ w ∈ o.waiting, w ∈ switches

theorem known_of_openLetters {w : Switch} (hw : w ∈ switches) {attached : Text} {o : Opened}
    (h : openLetters switches w attached = .ok o) : o.Known switches := by
  have hbare : ∀ {w : Switch}, w ∈ switches → Given.Known switches ⟨w, none⟩ := fun h => ⟨h, nofun⟩
  fun_induction openLetters switches w attached generalizing o with
  | case1 w attached =>
    obtain rfl := Except.ok.inj h
    refine ⟨fun g hg => ?_, nofun⟩
    obtain rfl := List.mem_singleton.mp hg
    exact ⟨hw, fun v hv => Option.some.inj hv ▸ isArgument_attachedValue attached⟩
  | case2 | case3 => cases h
  | case4 w _ p rest w' isShort hnamed =>
    obtain rfl := Except.ok.inj h
    refine ⟨fun g hg => List.mem_singleton.mp hg ▸ hbare hw, ?_⟩
    rintro _ ⟨⟩
    exact Argument.mem_of_switchNamed? hnamed
  | case5 w _ p rest w' isShort hnamed =>
    obtain rfl := Except.ok.inj h
    refine ⟨fun g hg => ?_, nofun⟩
    rcases List.mem_cons.mp hg with rfl | hg
    · exact hbare hw
    · exact List.mem_singleton.mp hg ▸ hbare (Argument.mem_of_switchNamed? hnamed)
  | case6 w _ p rest w' isShort hnamed _ ih =>
    cases hrest : openLetters switches w' rest with
    | error e =>
      rw [hrest] at h
      cases h
    | ok o' =>
      rw [hrest] at h
      obtain rfl := Except.ok.inj h
      obtain ⟨hgiven, hwaiting⟩ := ih (Argument.mem_of_switchNamed? hnamed) hrest
      exact ⟨List.forall_mem_cons.mpr ⟨hbare hw, hgiven⟩, hwaiting⟩

theorem known_of_openOption {use : SwitchUse} (huse : use.switch ∈ switches) {o : Opened}
    (h : openOption switches use = .ok o) : o.Known switches := by
  rw [openOption] at h
  split at h
  · obtain rfl := Except.ok.inj h
    split_ifs
    · refine ⟨fun g hg => absurd hg List.not_mem_nil, ?_⟩
      rintro _ ⟨⟩
      exact huse
    · exact ⟨fun g hg => List.mem_singleton.mp hg ▸ ⟨huse, nofun⟩, nofun⟩
  · split_ifs at h
    · exact known_of_openLetters huse h
    · obtain rfl := Except.ok.inj h
      refine ⟨fun g hg => ?_, nofun⟩
      obtain rfl := List.mem_singleton.mp hg
      exact ⟨huse, fun v hv => Option.some.inj hv ▸ isArgument_attachedValue _⟩

theorem known_of_read {phase : Phase} {as : List Argument}
    (has : ∀ use, .option use ∈ as → use.switch ∈ switches) :
    ∀ g ∈ (read switches phase as).given, g.Known switches := by
  fun_induction read switches phase as with
  | case1 | case7 | case10 => exact fun g hg => absurd hg List.not_mem_nil
  | case2 _ _ ih | case3 _ _ _ _ ih | case4 _ ih | case5 _ _ _ ih | case6 _ _ _ ih =>
    exact ih fun use huse => has use (List.mem_cons_of_mem _ huse)
  | case8 phase use as given hopen ih =>
    obtain ⟨hgiven, -⟩ := known_of_openOption (has use List.mem_cons_self) hopen
    exact List.forall_mem_append.mpr
      ⟨hgiven, ih fun use huse => has use (List.mem_cons_of_mem _ huse)⟩
  | case9 phase use given w hopen s as ih =>
    obtain ⟨hgiven, hwaiting⟩ := known_of_openOption (has use List.mem_cons_self) hopen
    have hargument : Given.Known switches ⟨w, some (.text s)⟩ :=
      ⟨hwaiting w rfl, fun v hv => Option.some.inj hv ▸ .inr ⟨s, rfl⟩⟩
    refine List.forall_mem_append.mpr ⟨List.forall_mem_append.mpr ⟨hgiven, ?_⟩,
      ih fun use huse => has use (List.mem_cons_of_mem _ (List.mem_cons_of_mem _ huse))⟩
    exact fun g hg => List.mem_singleton.mp hg ▸ hargument

/-- **What a command line gives are switches of it.** -/
theorem known_of_ofTexts {takesOperands : Bool} {ss : List Text} {c : CommandLine}
    (h : ofTexts switches takesOperands ss = .ok c) : ∀ g ∈ c.given, g.Known switches := by
  cases has : Argument.list switches ss with
  | error e =>
    rw [ofTexts, has] at h
    cases h
  | ok as =>
    rw [ofTexts, has] at h
    obtain rfl := Except.ok.inj h
    exact known_of_read fun use => Argument.mem_of_list has

end CommandLine

/-! ## Types of settings -/

/-- The values that a switch leaves under its key, from the default on. -/
def SwitchEffect.Fits : SwitchEffect → Value → Prop
  | store, v => v = .null ∨ v.IsArgument
  | append, v => ∃ items, v = .list items
  | turnOn, v => ∃ b, v = .bool b
  | count, v => ∃ i, v = .int i
  | showManual, _ | showVersion, _ => True

theorem SwitchEffect.fits_of_default? {e : SwitchEffect} {v : Value} (h : e.default? = some v) :
    e.Fits v := by
  cases e with
  | store => exact .inl (Option.some.inj h).symm
  | append => exact ⟨[], (Option.some.inj h).symm⟩
  | turnOn => exact ⟨false, (Option.some.inj h).symm⟩
  | count => exact ⟨0, (Option.some.inj h).symm⟩
  | showManual | showVersion => trivial

namespace Settings

theorem find?_putNamed (k l : Text) (v : Value) (s : Settings) :
    (putNamed k v s).find? (fun e => e.1 = l) =
      if k = l then some (k, v) else s.find? fun e => e.1 = l := by
  induction s with
  | nil => simp [putNamed]
  | cons e s ih =>
    rw [putNamed]
    split_ifs with hek hkl hkl
    · rw [List.find?_cons_of_pos (by simpa using hkl)]
    · rw [List.find?_cons_of_neg (by simpa using hkl),
        List.find?_cons_of_neg (by simpa [hek] using hkl)]
    · rw [List.find?_cons_of_neg (by simpa [← hkl] using hek), ih, if_pos hkl]
    · simp only [List.find?_cons, ih, if_neg hkl]

@[simp]
theorem get_put_self (s : Settings) (k : Text) (v : Value) : (s.put k v).get k = v := by
  rw [get, get?, put, find?_putNamed, if_pos rfl]
  rfl

theorem get_put_of_ne (s : Settings) {k l : Text} (h : k ≠ l) (v : Value) :
    (s.put k v).get l = s.get l := by
  rw [get, get?, put, find?_putNamed, if_neg h]
  rfl

variable {switches : List Switch} {s : Settings}

/-- The settings of switches are of the types that these leave. -/
def Fits (switches : List Switch) (s : Settings) : Prop :=
  ∀ w ∈ switches, w.effect.Fits (s.get w.key)

/-- Switches with the same key do the same. -/
def Agree (switches : List Switch) : Prop :=
  ∀ w ∈ switches, ∀ w' ∈ switches, (w.key : Text) = w'.key → w.effect = w'.effect

/-- Settings start from the defaults of their switches. -/
theorem get_defaults (h : Agree switches) {w : Switch} (hw : w ∈ switches) :
    (defaults switches).get w.key = w.effect.default?.getD .null := by
  rw [get, get?]
  cases hfind : (defaults switches).find? fun e => e.1 = (w.key : Text) with
  | some e =>
    obtain ⟨w', hw', he⟩ := List.mem_filterMap.mp (List.mem_of_find?_eq_some hfind)
    obtain ⟨v, hv, rfl⟩ := Option.map_eq_some_iff.mp he
    have hkey : (w'.key : Text) = w.key := by simpa using List.find?_some hfind
    rw [h w hw w' hw' hkey.symm, hv]
    rfl
  | none =>
    -- Only a switch that shows something has no default.
    have hdefault : w.effect.default? = none := by
      rw [List.find?_eq_none] at hfind
      by_contra hne
      obtain ⟨v, hv⟩ := Option.ne_none_iff_exists'.mp hne
      exact hfind (w.key, v) (List.mem_filterMap.mpr ⟨w, hw, by rw [hv]; rfl⟩) (by simp)
    rw [hdefault]
    rfl

theorem fits_defaults (h : Agree switches) : Fits switches (defaults switches) := by
  intro w hw
  rw [get_defaults h hw]
  cases heffect : w.effect with
  | showManual | showVersion => trivial
  | store | append | turnOn | count => exact SwitchEffect.fits_of_default? rfl

theorem Fits.put (hs : Fits switches s) (h : Agree switches) {w : Switch} (hw : w ∈ switches)
    {v : Value} (hv : w.effect.Fits v) : Fits switches (s.put w.key v) := by
  intro w' hw'
  by_cases hkey : (w.key : Text) = w'.key
  · rw [← hkey, get_put_self, ← h w hw w' hw' hkey]
    exact hv
  · rw [get_put_of_ne _ hkey]
    exact hs w' hw'

/-- What shows something has no default. -/
theorem default?_of_shownBy {g : Given} {what : Shown} (h : shownBy g = some what) :
    g.switch.effect.default? = none := by
  rw [shownBy] at h
  cases heffect : g.switch.effect with
  | showManual | showVersion => rfl
  | store | append | turnOn | count =>
    rw [heffect] at h
    cases h

/-- **A switch can be given**, and leaves the types of settings. -/
theorem Fits.exists_give (hs : Fits switches s) (h : Agree switches) {g : Given}
    (hg : g.Known switches) : ∃ s', s.give g = .ok s' ∧ Fits switches s' ∧
      ∀ k : Text, (g.switch.key : Text) ≠ k → s'.get k = s.get k := by
  have hput : ∀ {v : Value}, g.switch.effect.Fits v → Fits switches (s.put g.switch.key v) ∧
      ∀ k : Text, (g.switch.key : Text) ≠ k → (s.put g.switch.key v).get k = s.get k :=
    fun hv => ⟨hs.put h hg.mem hv, fun k hk => get_put_of_ne _ hk _⟩
  have hfits := hs g.switch hg.mem
  rw [give]
  cases heffect : g.switch.effect with
  | store =>
    rw [heffect] at hput
    refine ⟨_, rfl, hput ?_⟩
    cases hargument : g.argument with
    | none => exact .inl rfl
    | some v => exact .inr (hg.argument v hargument)
  | append =>
    rw [heffect] at hput hfits
    obtain ⟨items, hitems⟩ := hfits
    rw [hitems]
    exact ⟨_, rfl, hput ⟨_, rfl⟩⟩
  | turnOn =>
    rw [heffect] at hput
    exact ⟨_, rfl, hput ⟨true, rfl⟩⟩
  | count =>
    rw [heffect] at hput hfits
    obtain ⟨i, hi⟩ := hfits
    rw [hi]
    exact ⟨_, rfl, hput ⟨i + 1, rfl⟩⟩
  | showManual | showVersion => exact ⟨s, rfl, hs, fun _ _ => rfl⟩

theorem Fits.exists_giveAll (hs : Fits switches s) (h : Agree switches) {gs : List Given}
    (hgs : ∀ g ∈ gs, g.Known switches) : ∃ s' shown, s.giveAll gs = .ok (s', shown) ∧
      Fits switches s' ∧ (∀ what ∈ shown, ∃ w ∈ switches, w.effect.default? = none) ∧
      ∀ k : Text, (∀ w ∈ switches, (w.key : Text) ≠ k) → s'.get k = s.get k := by
  induction gs generalizing s with
  | nil => exact ⟨s, none, rfl, hs, nofun, fun _ _ => rfl⟩
  | cons g gs ih =>
    obtain ⟨hg, hgs⟩ := List.forall_mem_cons.mp hgs
    rw [giveAll]
    cases hshown : shownBy g with
    | some what =>
      refine ⟨s, some what, rfl, hs, fun _ _ => ⟨g.switch, hg.mem, ?_⟩, fun _ _ => rfl⟩
      exact default?_of_shownBy hshown
    | none =>
      obtain ⟨s₁, hgive, hs₁, hkeep₁⟩ := hs.exists_give h hg
      obtain ⟨s₂, shown, hall, hs₂, hshows, hkeep₂⟩ := ih hs₁ hgs
      refine ⟨s₂, shown, by rw [hgive]; exact hall, hs₂, hshows, fun k hk => ?_⟩
      exact (hkeep₂ k hk).trans (hkeep₁ k (hk _ hg.mem))

/-- Operands become a list of texts under their key. -/
theorem get_giveOperands (s : Settings) {k : Text} (hk : s.get k = .list [])
    (operands : List Text) : (s.giveOperands k operands).get k = .texts operands := by
  rw [giveOperands]
  cases operands with
  | nil =>
    have hsome : s.get? k = some (.list []) := by
      rw [get] at hk
      cases hget : s.get? k with
      | none =>
        rw [hget] at hk
        cases hk
      | some v =>
        rw [hget] at hk
        exact congrArg some hk
    rw [hsome]
    exact hk
  | cons operand operands => exact get_put_self _ _ _

theorem get_giveOperands_of_ne (s : Settings) {k l : Text} (h : k ≠ l) (operands : List Text) :
    (s.giveOperands k operands).get l = s.get l := by
  rw [giveOperands]
  split_ifs
  · exact get_put_of_ne _ h _
  · split
    · exact get_put_of_ne _ h _
    · rfl

/-- The settings that a command line comes to, of the types that its switches leave, with its
operands under their key. -/
structure Typed (synopsis : Synopsis) (s : Settings) : Prop where
  fits : Fits synopsis.switches s
  operands : ∀ k ∈ synopsis.operandKey, ∃ operands, s.get k = .texts operands

end Settings

/-- **A command line over settings of fitting types comes to something.** -/
theorem Synopsis.exists_finish_eq_ok {synopsis : Synopsis} {s : Settings}
    (hs : s.Fits synopsis.switches) (h : Settings.Agree synopsis.switches)
    (hkey : ∀ k ∈ synopsis.operandKey, s.get k = .list [] ∧
      ∀ w ∈ synopsis.switches, (w.key : Text) ≠ k) (arguments : List Text) :
    ∃ ending, synopsis.finish s arguments = .ok ending ∧
      (∀ s', ending = .settings s' → s'.Typed synopsis) ∧
      ∀ what, ending = .shown what → ∃ w ∈ synopsis.switches, w.effect.default? = none := by
  rw [finish]
  cases hc : CommandLine.ofTexts synopsis.switches synopsis.operands.isSome arguments with
  | error e => exact ⟨.misused e, rfl, nofun, nofun⟩
  | ok c =>
    obtain ⟨s₁, shown, hall, hs₁, hshows, hkeep⟩ :=
      hs.exists_giveAll h (CommandLine.known_of_ofTexts hc)
    dsimp only
    rw [Settings.finish, hall]
    cases shown with
    | some what => exact ⟨.shown what, rfl, nofun, fun _ _ => hshows what rfl⟩
    | none =>
      cases c.remainder with
      | error e => exact ⟨.misused e, rfl, nofun, nofun⟩
      | ok r =>
        cases hoperands : synopsis.operandKey with
        | none =>
          refine ⟨.settings s₁, rfl, ?_, nofun⟩
          rintro _ ⟨⟩
          exact ⟨hs₁, by rw [hoperands]; exact nofun⟩
        | some k =>
          obtain ⟨hlist, hne⟩ := hkey k hoperands
          change ∃ ending, (if r.rest.isEmpty then _ else _) = _ ∧ _
          split_ifs
          · refine ⟨.settings (s₁.giveOperands k r.operands), rfl, ?_, nofun⟩
            rintro _ ⟨⟩
            refine ⟨fun w hw => ?_, fun k' hk' => ?_⟩
            · rw [Settings.get_giveOperands_of_ne _ (hne w hw).symm]
              exact hs₁ w hw
            · obtain rfl := Option.some.inj (hoperands.symm.trans hk')
              exact ⟨_, s₁.get_giveOperands ((hkeep k hne).trans hlist) r.operands⟩
          · exact ⟨.misused (.unrecognized r.rest), rfl, nofun, nofun⟩

/-! ## The switches of the tool -/

namespace Settings

theorem agree_early : Agree Catalogue.early.switches := by
  unfold Agree
  decide +kernel

theorem agree_full : Agree Catalogue.full.switches := by
  unfold Agree
  decide +kernel

theorem key_ne_inputs : ∀ w ∈ Catalogue.full.switches, (w.key : Text) ≠ Catalogue.inputs.key := by
  decide +kernel

theorem get_catalogue {w : Switch} (hw : w ∈ Catalogue.full.switches) :
    Catalogue.defaults.get w.key = w.effect.default?.getD .null := by
  rw [← get_defaults agree_full hw, Catalogue.defaults, get, get?, List.find?_cons_of_neg]
  · rfl
  · simpa using (key_ne_inputs w hw).symm

theorem fits_catalogue : Fits Catalogue.full.switches Catalogue.defaults := by
  intro w hw
  rw [get_catalogue hw, ← get_defaults agree_full hw]
  exact fits_defaults agree_full w hw

end Settings

end HiveScript
