import HiveScript.Proofs.Options.Values
import HiveScript.Proofs.Program.Containment

/-!
# Command lines over configurations

The command line goes over the configurations: they only set the values that its switches start
from. A switch that stores its argument or that is turned on leaves nothing of such a value, and
neither do operands. One that counts or that collects its arguments goes on from the value that it
finds.

* `Settings.over`, `Run.answers_settle`: settings come from a command line over a configuration.
* `Run.get_eq_of_overrides`, `Run.get_of_append`, `Run.countedTimes_of_count`: what the switches of
  one key leave.
* **`Run.settle_overrides`**: what two configurations leave to the same command line.
* `Run.settle_not_overrides`: counts of a configuration are not overridden.
-/

namespace HiveScript

/-- The settings with those of a configuration over them. -/
def Settings.over (s : Settings) (configuration : Entries) : Settings :=
  configuration.foldl (fun s e =>
    match e.1 with
    | .text k => if Catalogue.keys.contains k then s.put k e.2 else s
    | _ => s) s

namespace Run

theorem answers_applyConfiguration (s : Settings) (configuration : Entries) :
    Answers (applyConfiguration s configuration) fun s' => s' = s.over configuration := by
  fun_induction applyConfiguration s configuration with
  | case1 s => exact Answers.pure rfl
  | case2 s k v es hk ih =>
    have hover : s.over ((.text k, v) :: es) = (s.put k v).over es := by
      simp only [Settings.over, List.foldl_cons, hk, if_true]
    rw [hover]
    exact ih
  | case3 s k v es hk ih =>
    have hover : s.over ((.text k, v) :: es) = s.over es := by
      simp only [Settings.over, List.foldl_cons, hk, if_false, Bool.false_eq_true]
    rw [hover]
    exact (Answers.any _).bind fun _ _ => ih
  | case4 s e es hk ih =>
    have hover : s.over (e :: es) = s.over es := by
      obtain ⟨k, v⟩ := e
      cases k with
      | text k => exact absurd rfl (hk k v)
      | null | bool | int | float | date | dateTime => rfl
    rw [hover]
    exact ih

theorem answers_readCommandLine (synopsis : Synopsis) (s : Settings) (arguments : List Text) :
    Answers (readCommandLine synopsis s arguments) fun s' =>
      synopsis.finish s arguments = .ok (.settings s') := by
  refine (Answers.ofExcept fun _ h => h).bind fun ending hending => ?_
  have hexit : ∀ {α : Type} {Q : α → Prop} (x : Run PUnit) (status : ExitStatus),
      Answers (do x; exit status) Q :=
    fun _ _ => (Answers.any _).bind fun _ _ => Answers.throw
  cases ending with
  | settings s' => exact Answers.pure hending
  | shown what =>
    cases what with
    | manual =>
      exact (Answers.any _).bind fun _ _ => (Answers.any _).bind fun _ _ => hexit _ _
    | version => exact hexit _ _
  | misused e => exact hexit _ _

/-- **Settings come from a command line over a configuration.** -/
theorem answers_settle (configuration : Entries) (arguments : List Text) :
    Answers (settle configuration arguments) fun s =>
      Catalogue.full.finish (Catalogue.defaults.over configuration) arguments =
        .ok (.settings s) := by
  refine (answers_applyConfiguration Catalogue.defaults configuration).bind fun s hs => ?_
  subst hs
  exact answers_readCommandLine _ _ _

section Says

variable {arguments : List Text} {base base₁ base₂ s s₁ s₂ : Settings} {c : CommandLine}
  {r : Remainder} {g : Given}

theorem effect_of_mem_ofKey (h : Catalogue.full.Says arguments base s c r) (hg : g ∈ c.given) :
    ∀ g' ∈ Given.ofKey g.switch.key c.given, g'.switch.effect = g.switch.effect :=
  h.effect_eq Settings.agree_full (CommandLine.known_of_ofTexts h.line g hg).mem

/-- The value of a key is that of its switches, one after the other. -/
theorem reviseAll_ofKey (h : Catalogue.full.Says arguments base s c r) (hg : g ∈ c.given) :
    Given.reviseAll (Given.ofKey g.switch.key c.given) (base.get g.switch.key) =
      .ok (s.get g.switch.key) :=
  h.values _ fun hk => Settings.key_ne_inputs _ (CommandLine.known_of_ofTexts h.line g hg).mem
    (Option.some.inj hk).symm

theorem ofKey_ne_nil (hg : g ∈ c.given) : Given.ofKey g.switch.key c.given ≠ [] :=
  List.ne_nil_of_mem (Given.mem_ofKey.mpr ⟨hg, rfl⟩)

/-- What overrides leaves the same over any settings. -/
theorem get_eq_of_overrides (h₁ : Catalogue.full.Says arguments base₁ s₁ c r)
    (h₂ : Catalogue.full.Says arguments base₂ s₂ c r) (hg : g ∈ c.given)
    (hover : g.switch.effect.Overrides) : s₁.get g.switch.key = s₂.get g.switch.key := by
  have hall : ∀ g' ∈ Given.ofKey g.switch.key c.given, g'.switch.effect.Overrides :=
    fun g' hg' => effect_of_mem_ofKey h₁ hg g' hg' ▸ hover
  have hvalue₁ := reviseAll_ofKey h₁ hg
  rw [Given.reviseAll_congr (ofKey_ne_nil hg) hall _ (base₂.get g.switch.key)] at hvalue₁
  exact Except.ok.inj (hvalue₁.symm.trans (reviseAll_ofKey h₂ hg))

/-- What is collected comes after the items that are there. -/
theorem get_of_append (h : Catalogue.full.Says arguments base s c r) (hg : g ∈ c.given)
    (hadd : g.switch.effect = .append) : ∃ items, (base.get g.switch.key).Lists items ∧
      s.get g.switch.key =
        .list (items ++ (Given.ofKey g.switch.key c.given).map Given.value) :=
  Given.reviseAll_append (ofKey_ne_nil hg)
    (fun g' hg' => (effect_of_mem_ofKey h hg g' hg').trans hadd) (reviseAll_ofKey h hg)

/-- Counts go on from the value that is there. -/
theorem countedTimes_of_count (h : Catalogue.full.Says arguments base s c r) (hg : g ∈ c.given)
    (hcount : g.switch.effect = .count) :
    Settings.countedTimes (Given.ofKey g.switch.key c.given).length (base.get g.switch.key) =
      .ok (s.get g.switch.key) := by
  rw [← Given.reviseAll_count fun g' hg' => (effect_of_mem_ofKey h hg g' hg').trans hcount]
  exact reviseAll_ofKey h hg

end Says

/-- **A command line over two configurations.** Operands, arguments that are stored and switches
that are turned on override: the configurations do not matter. Arguments that are collected come
after what a configuration has, and counts go on from there. -/
theorem settle_overrides {configuration₁ configuration₂ : Entries} {arguments : List Text}
    {w₁ w₂ v₁ v₂ : World} {s₁ s₂ : Settings}
    (h₁ : (settle configuration₁ arguments).after w₁ = (.ok s₁, v₁))
    (h₂ : (settle configuration₂ arguments).after w₂ = (.ok s₂, v₂)) :
    ∃ c r, CommandLine.ofTexts Catalogue.full.switches true arguments = .ok c ∧
      c.remainder = .ok r ∧
      (r.operands ≠ [] → s₁.get Catalogue.inputs.key = s₂.get Catalogue.inputs.key) ∧
      ∀ g ∈ c.given,
        let k : Text := g.switch.key
        let same := Given.ofKey k c.given
        let base₁ := (Catalogue.defaults.over configuration₁).get k
        let base₂ := (Catalogue.defaults.over configuration₂).get k
        (g.switch.effect.Overrides → s₁.get k = s₂.get k) ∧
        (g.switch.effect = .append → ∃ items₁ items₂, base₁.Lists items₁ ∧ base₂.Lists items₂ ∧
          s₁.get k = .list (items₁ ++ same.map Given.value) ∧
          s₂.get k = .list (items₂ ++ same.map Given.value)) ∧
        (g.switch.effect = .count →
          Settings.countedTimes same.length base₁ = .ok (s₁.get k) ∧
          Settings.countedTimes same.length base₂ = .ok (s₂.get k)) := by
  obtain ⟨c, r, hsaid₁⟩ := Synopsis.says_of_finish ((answers_settle _ _).of_after h₁)
  obtain ⟨c', r', hsaid₂⟩ := Synopsis.says_of_finish ((answers_settle _ _).of_after h₂)
  obtain rfl : c = c' := Except.ok.inj (hsaid₁.line.symm.trans hsaid₂.line)
  obtain rfl : r = r' := Except.ok.inj (hsaid₁.remainder.symm.trans hsaid₂.remainder)
  refine ⟨c, r, hsaid₁.line, hsaid₁.remainder, fun hoperands => ?_, ?_⟩
  · rw [hsaid₁.operands _ rfl hoperands, hsaid₂.operands _ rfl hoperands]
  intro g hg k same base₁ base₂
  refine ⟨get_eq_of_overrides hsaid₁ hsaid₂ hg, fun hadd => ?_, fun hcount => ?_⟩
  · obtain ⟨items₁, hitems₁, hlist₁⟩ := get_of_append hsaid₁ hg hadd
    obtain ⟨items₂, hitems₂, hlist₂⟩ := get_of_append hsaid₂ hg hadd
    exact ⟨items₁, items₂, hitems₁, hitems₂, hlist₁, hlist₂⟩
  · exact ⟨countedTimes_of_count hsaid₁ hg hcount, countedTimes_of_count hsaid₂ hg hcount⟩

/-- A header and operands override; a count goes on. -/
theorem settle_overrides_header :
    ∃ s₁ s₂,
      (settle [(.text "header", .text "a"), (.text "verbose", .int 1)]
        ["-v", "--header", "c", "a.reg"]).after tray = (.ok s₁, tray) ∧
      (settle [(.text "inputs", .text "b"), (.text "verbose", .int 2)]
        ["-v", "--header", "c", "a.reg"]).after tray = (.ok s₂, tray) ∧
      s₁.get "header" = s₂.get "header" ∧ s₁.get "inputs" = s₂.get "inputs" ∧
      s₁.get "verbose" = .int 2 ∧ s₂.get "verbose" = .int 3 := by
  have h₁ : (settle [(.text "header", .text "a"), (.text "verbose", .int 1)]
      ["-v", "--header", "c", "a.reg"]).after tray = (.ok _, tray) := rfl
  have h₂ : (settle [(.text "inputs", .text "b"), (.text "verbose", .int 2)]
      ["-v", "--header", "c", "a.reg"]).after tray = (.ok _, tray) := rfl
  obtain ⟨c, r, hc, hr, hoperands, hgiven⟩ := settle_overrides h₁ h₂
  have hline : CommandLine.ofTexts Catalogue.full.switches true ["-v", "--header", "c", "a.reg"] =
      .ok ⟨[⟨Catalogue.verbose, none⟩, ⟨Catalogue.header, some (.text "c")⟩],
        .ok ⟨["a.reg"], []⟩⟩ := rfl
  obtain rfl := Except.ok.inj (hline.symm.trans hc)
  obtain rfl := Except.ok.inj hr
  obtain ⟨-, -, hcount⟩ := hgiven ⟨Catalogue.verbose, none⟩ (by simp)
  obtain ⟨hstored, -, -⟩ := hgiven ⟨Catalogue.header, some (.text "c")⟩ (by simp)
  obtain ⟨hcount₁, hcount₂⟩ := hcount rfl
  exact ⟨_, _, h₁, h₂, hstored (.inl rfl), hoperands (by simp),
    Except.ok.inj (hcount₁.symm.trans (Settings.countedTimes_int 1 1)),
    Except.ok.inj (hcount₂.symm.trans (Settings.countedTimes_int 1 2))⟩

/-- The same command line counts to one over a configuration with none, and to three over one with
two. -/
theorem settle_not_overrides :
    ∃ s₁ s₂,
      (settle [(.text "verbose", .int 0)] ["-v"]).after tray = (.ok s₁, tray) ∧
      (settle [(.text "verbose", .int 2)] ["-v"]).after tray = (.ok s₂, tray) ∧
      s₁.get "verbose" = .int 1 ∧ s₂.get "verbose" = .int 3 :=
  ⟨_, _, rfl, rfl, rfl, rfl⟩

end Run

end HiveScript
