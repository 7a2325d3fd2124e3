import HiveScript.Proofs.Options.CommandLines
import HiveScript.Proofs.Results

/-!
# The value of one key

The switches of a command line act on the values of their keys one by one: what they make of the
value of a key depends on that value and on the switches of that key only.

* `SwitchEffect.revise`, `Given.reviseAll`: what a switch, and what all of some make of a value.
* **`Settings.get_of_giveAll`**, **`Synopsis.says_of_finish`**: the values that a command line
  leaves.
* `Given.reviseAll_congr`, `Given.reviseAll_append`, `Given.reviseAll_count`: some switches put
  their own value in the place of the one that is there, some add to it.
-/

namespace HiveScript

/-- What giving a switch makes of the value under its key. -/
def SwitchEffect.revise (argument v : Value) : SwitchEffect → Except Failure Value
  | store => .ok argument
  | append => Settings.appended v argument
  | turnOn => .ok (.bool true)
  | count => Settings.counted v
  | showManual | showVersion => .ok v

/-- The switch puts a value in the place of the one that is there. -/
def SwitchEffect.Overrides (e : SwitchEffect) : Prop := e = store ∨ e = turnOn

/-- The items that a value stands for where items are added. -/
inductive Value.Lists : Value → List Value → Prop
  | null : Lists .null []
  | list (items : List Value) : Lists (.list items) items

/-- A value that is counted up some times. -/
def Settings.countedTimes : Nat → Value → Except Failure Value
  | 0, v => .ok v
  | n + 1, v => do countedTimes n (← counted v)

/-- An integer goes up by one each time. -/
theorem Settings.countedTimes_int (n : Nat) (i : Int) :
    countedTimes n (.int i) = .ok (.int (i + n)) := by
  induction n generalizing i with
  | zero => simp [countedTimes]
  | succ n ih =>
    have hnext : countedTimes (n + 1) (.int i) = countedTimes n (.int (i + 1)) := rfl
    have hsum : i + 1 + (n : Int) = i + (n + 1 : Nat) := by omega
    rw [hnext, ih, hsum]

namespace Given

variable {k : Text} {v r : Value} {gs : List Given}

/-- The argument as a value, null if there is none. -/
def value (g : Given) : Value := g.argument.getD .null

/-- The switches of a key. -/
def ofKey (k : Text) (gs : List Given) : List Given := gs.filter fun g => g.switch.key = k

/-- What switches make of a value, one after the other. -/
def reviseAll (gs : List Given) (v : Value) : Except Failure Value :=
  gs.foldlM (fun v g => g.switch.effect.revise g.value v) v

theorem mem_ofKey {g : Given} : g ∈ ofKey k gs ↔ g ∈ gs ∧ (g.switch.key : Text) = k := by
  simp [ofKey]

theorem ofKey_cons_self {g : Given} (hg : (g.switch.key : Text) = k) :
    ofKey k (g :: gs) = g :: ofKey k gs := by
  simp [ofKey, hg]

theorem ofKey_cons_of_ne {g : Given} (hg : (g.switch.key : Text) ≠ k) :
    ofKey k (g :: gs) = ofKey k gs := by
  simp [ofKey, hg]

/-! ## Switches that override, and switches that add -/

/-- Once a switch has overridden it, the value that was there does not matter. -/
theorem reviseAll_congr (hgs : gs ≠ []) (hover : ∀ g ∈ gs, g.switch.effect.Overrides)
    (v v' : Value) : reviseAll gs v = reviseAll gs v' := by
  cases gs with
  | nil => exact absurd rfl hgs
  | cons g gs =>
    have hfirst : g.switch.effect.revise g.value v = g.switch.effect.revise g.value v' := by
      rcases hover g List.mem_cons_self with h | h <;> rw [h] <;> rfl
    simp only [reviseAll, List.foldlM_cons, hfirst]

/-- Items are added to those that were there. -/
theorem reviseAll_append (hgs : gs ≠ []) (hadd : ∀ g ∈ gs, g.switch.effect = .append)
    (h : reviseAll gs v = .ok r) :
    ∃ items, v.Lists items ∧ r = .list (items ++ gs.map value) := by
  have hstep : ∀ g ∈ gs, ∀ {v r}, g.switch.effect.revise g.value v = .ok r →
      ∃ items, v.Lists items ∧ r = .list (items ++ [g.value]) := by
    intro g hg v r h
    rw [hadd g hg, SwitchEffect.revise] at h
    unfold Settings.appended at h
    split at h
    · exact ⟨[], .null, (Except.ok.inj h).symm⟩
    · exact ⟨_, .list _, (Except.ok.inj h).symm⟩
    · cases h
  induction gs generalizing v with
  | nil => exact absurd rfl hgs
  | cons g gs ih =>
    rw [reviseAll, List.foldlM_cons] at h
    obtain ⟨v', hv', h⟩ := exists_of_bind_eq_ok h
    obtain ⟨items, hitems, rfl⟩ := hstep g List.mem_cons_self hv'
    refine ⟨items, hitems, ?_⟩
    by_cases hnil : gs = []
    · subst hnil
      exact (Except.ok.inj h).symm
    · obtain ⟨items', hitems', rfl⟩ := ih hnil (fun g hg => hadd g (List.mem_cons_of_mem _ hg)) h
        fun g hg => hstep g (List.mem_cons_of_mem _ hg)
      cases hitems'
      simp

/-- What is turned on stays on. -/
theorem reviseAll_turnOn (hon : ∀ g ∈ gs, g.switch.effect = .turnOn) (b : Bool) :
    reviseAll gs (.bool b) = .ok (.bool (b || !gs.isEmpty)) := by
  induction gs generalizing b with
  | nil => simp [reviseAll, pure, Except.pure]
  | cons g gs ih =>
    have hfirst : g.switch.effect.revise g.value (.bool b) = .ok (.bool true) := by
      rw [hon g List.mem_cons_self]
      rfl
    have hrest := ih (fun g hg => hon g (List.mem_cons_of_mem _ hg)) true
    rw [reviseAll, List.foldlM_cons, hfirst, List.isEmpty_cons, Bool.not_false, Bool.or_true]
    rwa [Bool.true_or] at hrest

/-- A value is counted up once for each switch. -/
theorem reviseAll_count (hcount : ∀ g ∈ gs, g.switch.effect = .count) :
    reviseAll gs v = Settings.countedTimes gs.length v := by
  induction gs generalizing v with
  | nil => rfl
  | cons g gs ih =>
    have hfirst : g.switch.effect.revise g.value v = Settings.counted v := by
      rw [hcount g List.mem_cons_self]
      rfl
    have hrest : ∀ v, reviseAll gs v = Settings.countedTimes gs.length v :=
      fun v => ih fun g hg => hcount g (List.mem_cons_of_mem _ hg)
    rw [reviseAll, List.foldlM_cons, hfirst]
    exact congrArg (Settings.counted v >>= ·) (funext hrest)

end Given

namespace Settings

variable {s s' : Settings} {g : Given} {gs : List Given} {k : Text}

/-! ## What is left under a key -/

/-- A switch revises the value of its key. -/
theorem get_of_give_self (h : s.give g = .ok s') (hk : (g.switch.key : Text) = k) :
    g.switch.effect.revise g.value (s.get k) = .ok (s'.get k) := by
  subst hk
  rw [give] at h
  cases heffect : g.switch.effect with
  | store | turnOn =>
    rw [heffect] at h
    obtain rfl := Except.ok.inj h
    rw [get_put_self]
    rfl
  | append | count =>
    rw [heffect] at h
    obtain ⟨v, hv, h⟩ := exists_of_bind_eq_ok h
    obtain rfl := Except.ok.inj h
    rw [get_put_self]
    exact hv
  | showManual | showVersion =>
    rw [heffect] at h
    obtain rfl := Except.ok.inj h
    rfl

/-- A switch leaves the values of other keys alone. -/
theorem get_of_give_of_ne (h : s.give g = .ok s') (hk : (g.switch.key : Text) ≠ k) :
    s'.get k = s.get k := by
  rw [give] at h
  cases heffect : g.switch.effect with
  | store | turnOn =>
    rw [heffect] at h
    obtain rfl := Except.ok.inj h
    exact get_put_of_ne s hk _
  | append | count =>
    rw [heffect] at h
    obtain ⟨v, -, h⟩ := exists_of_bind_eq_ok h
    obtain rfl := Except.ok.inj h
    exact get_put_of_ne s hk v
  | showManual | showVersion =>
    rw [heffect] at h
    obtain rfl := Except.ok.inj h
    rfl

/-- **The value of a key is what the switches of the key make of it.** -/
theorem get_of_giveAll (h : s.giveAll gs = .ok (s', none)) (k : Text) :
    Given.reviseAll (Given.ofKey k gs) (s.get k) = .ok (s'.get k) := by
  induction gs generalizing s with
  | nil =>
    obtain ⟨rfl, -⟩ := Prod.ext_iff.mp (Except.ok.inj h)
    rfl
  | cons g gs ih =>
    rw [giveAll] at h
    cases hshown : shownBy g with
    | some what =>
      rw [hshown] at h
      cases (Prod.ext_iff.mp (Except.ok.inj h)).2
    | none =>
      rw [hshown] at h
      obtain ⟨s₁, hgive, h⟩ := exists_of_bind_eq_ok h
      by_cases hk : (g.switch.key : Text) = k
      · rw [Given.ofKey_cons_self hk, Given.reviseAll, List.foldlM_cons, get_of_give_self hgive hk]
        exact ih h
      · rw [Given.ofKey_cons_of_ne hk, ← get_of_give_of_ne hgive hk]
        exact ih h

theorem shownBy_of_giveAll (h : s.giveAll gs = .ok (s', none)) : ∀ g ∈ gs, shownBy g = none := by
  induction gs generalizing s with
  | nil => exact nofun
  | cons g gs ih =>
    rw [giveAll] at h
    cases hshown : shownBy g with
    | some what =>
      rw [hshown] at h
      cases (Prod.ext_iff.mp (Except.ok.inj h)).2
    | none =>
      rw [hshown] at h
      obtain ⟨s₁, -, h⟩ := exists_of_bind_eq_ok h
      exact List.forall_mem_cons.mpr ⟨hshown, ih h⟩

theorem get_giveOperands_self (s : Settings) {k : Text} {operands : List Text} (h : operands ≠ []) :
    (s.giveOperands k operands).get k = .texts operands := by
  have hempty : (!operands.isEmpty) = true := by simpa using h
  rw [giveOperands, if_pos hempty, get_put_self]

theorem finish_eq_settings {operandKey : Option Text} {c : CommandLine}
    (h : s.finish operandKey c = .ok (.settings s')) :
    ∃ s₁ r, s.giveAll c.given = .ok (s₁, none) ∧ c.remainder = .ok r ∧
      (operandKey = none → s' = s₁) ∧
      ∀ k ∈ operandKey, r.rest = [] ∧ s' = s₁.giveOperands k r.operands := by
  rw [finish] at h
  obtain ⟨⟨s₁, shown⟩, hgive, h⟩ := exists_of_bind_eq_ok h
  cases shown with
  | some what => cases h
  | none =>
    cases hr : c.remainder with
    | error e =>
      rw [hr] at h
      cases h
    | ok r =>
      rw [hr] at h
      refine ⟨s₁, r, hgive, rfl, ?_⟩
      cases operandKey with
      | none =>
        exact ⟨fun _ => (Ending.settings.inj (Except.ok.inj h)).symm, fun _ hk => by cases hk⟩
      | some k =>
        dsimp only at h
        split_ifs at h with hrest
        · refine ⟨fun hk => absurd hk (Option.some_ne_none k), ?_⟩
          rintro _ ⟨⟩
          exact ⟨List.isEmpty_iff.mp hrest, (Ending.settings.inj (Except.ok.inj h)).symm⟩
        · cases h

/-- Without operands only the reading of a command line can go wrong. -/
theorem finish_eq_misused {c : CommandLine} {e : UsageError}
    (h : s.finish none c = .ok (.misused e)) : c.remainder = .error e := by
  rw [finish] at h
  obtain ⟨⟨s₁, shown⟩, -, h⟩ := exists_of_bind_eq_ok h
  cases shown with
  | some what => cases h
  | none =>
    cases hr : c.remainder with
    | ok r =>
      rw [hr] at h
      cases h
    | error e' =>
      rw [hr] at h
      rw [Ending.misused.inj (Except.ok.inj h)]

end Settings

/-! ## Whole command lines -/

/-- What a command line says that leads from some settings to others. -/
structure Synopsis.Says (synopsis : Synopsis) (arguments : List Text) (s s' : Settings)
    (c : CommandLine) (r : Remainder) : Prop where
  line : CommandLine.ofTexts synopsis.switches synopsis.operands.isSome arguments = .ok c
  remainder : c.remainder = .ok r
  rest : ∀ k ∈ synopsis.operandKey, r.rest = []
  shows : ∀ g ∈ c.given, Settings.shownBy g = none
  values : ∀ k : Text, k ∉ synopsis.operandKey →
    Given.reviseAll (Given.ofKey k c.given) (s.get k) = .ok (s'.get k)
  operands : ∀ k ∈ synopsis.operandKey, r.operands ≠ [] → s'.get k = .texts r.operands

/-- Switches of one key have the same effect. -/
theorem Synopsis.Says.effect_eq {synopsis : Synopsis} {arguments : List Text} {s s' : Settings}
    {c : CommandLine} {r : Remainder} (h : synopsis.Says arguments s s' c r)
    (hagree : Settings.Agree synopsis.switches) {w : Switch} (hw : w ∈ synopsis.switches) :
    ∀ g ∈ Given.ofKey w.key c.given, g.switch.effect = w.effect := by
  intro g hg
  obtain ⟨hg, hkey⟩ := Given.mem_ofKey.mp hg
  exact hagree _ (CommandLine.known_of_ofTexts h.line g hg).mem w hw hkey

theorem Synopsis.finish_of_ofTexts {synopsis : Synopsis} {arguments : List Text} {c : CommandLine}
    (h : CommandLine.ofTexts synopsis.switches synopsis.operands.isSome arguments = .ok c)
    (s : Settings) : synopsis.finish s arguments = s.finish synopsis.operandKey c := by
  rw [finish, h]

/-- **The values that a command line leaves** are what its switches make of those that were there;
operands override. -/
theorem Synopsis.says_of_finish {synopsis : Synopsis} {arguments : List Text} {s s' : Settings}
    (h : synopsis.finish s arguments = .ok (.settings s')) :
    ∃ c r, synopsis.Says arguments s s' c r := by
  cases hc : CommandLine.ofTexts synopsis.switches synopsis.operands.isSome arguments with
  | error e =>
    rw [finish, hc] at h
    cases h
  | ok c =>
    rw [finish_of_ofTexts hc] at h
    obtain ⟨s₁, r, hgive, hr, hnone, hsome⟩ := Settings.finish_eq_settings h
    have hvalues := Settings.get_of_giveAll hgive
    refine ⟨c, r, hc, hr, fun k hk => (hsome k hk).1, Settings.shownBy_of_giveAll hgive,
      fun k hk => ?_, fun k hk hoperands => ?_⟩
    · cases hkey : synopsis.operandKey with
      | none => exact hnone hkey ▸ hvalues k
      | some k' =>
        have hne : k' ≠ k := fun he => hk (he ▸ hkey)
        rw [(hsome k' hkey).2, Settings.get_giveOperands_of_ne s₁ hne]
        exact hvalues k
    · rw [(hsome k hk).2]
      exact Settings.get_giveOperands_self s₁ hoperands

end HiveScript
