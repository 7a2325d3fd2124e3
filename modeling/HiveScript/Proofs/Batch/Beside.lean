import HiveScript.Proofs.Batch.Scripts

/-!
# Scripts beside each other

Scripts with names of their own in one directory do not get in each other's way. Writing one of them
makes directories above it and a temporary file, none of which is where another script goes.

* `Path.Beside`; **`indifferent_keeping_beside`**: what is at one of the two paths stays.
* **`triple_convertAll_written`**: the scripts that a batch writes stay.
* **`triple_convertAll_free`**: where nothing is at the targets, none is found taken later on.
-/

namespace HiveScript

/-! ## Names of scripts -/

namespace Targets.ScriptName

variable {name : Text}

theorem ne_dots (h : ScriptName name) : name ≠ [dot, dot] := by
  rintro rfl
  exact absurd h.2 (by decide)

/-- Scripts and temporary files end differently. -/
theorem not_temporaryEnd_isSuffix (h : ScriptName name) : ¬ Run.temporaryEnd <:+ name := fun hend =>
  absurd (List.suffix_of_suffix_length_le h.2 hend (by decide)) (by decide)

end Targets.ScriptName

/-! ## Paths of scripts -/

/-- Scripts with names of their own in a directory. -/
def Path.Beside (t t' : Path) : Prop :=
  ∃ (directory : Path) (n n' : Text), directory.WellFormed ∧ Targets.ScriptName n ∧
    Targets.ScriptName n' ∧ n ≠ n' ∧ t = directory.child n ∧ t' = directory.child n'

theorem Path.Beside.symm {t t' : Path} (h : t.Beside t') : t'.Beside t := by
  obtain ⟨directory, n, n', hwell, hn, hn', hne, ht, ht'⟩ := h
  exact ⟨directory, n', n, hwell, hn', hn, hne.symm, ht', ht⟩

theorem Path.Beside.climbs_iff {t t' : Path} (h : t.Beside t') {d : Disk} :
    d.Climbs t ↔ d.Climbs t' := by
  obtain ⟨directory, n, n', -, hn, hn', -, rfl, rfl⟩ := h
  rw [Disk.climbs_child hn.ne_dots, Disk.climbs_child hn'.ne_dots]

theorem Path.Beside.wellFormed {t t' : Path} (h : t.Beside t') : t.WellFormed := by
  obtain ⟨directory, n, -, hwell, hn, -, -, rfl, -⟩ := h
  exact hwell.childScript hn

namespace Disk

theorem placeOf_temporary_ne (d : Disk) {directory : Path} {n : Text} (hn : Targets.ScriptName n)
    (lead : Text) :
    d.placeOf (.ofText (lead ++ Run.temporaryEnd)) ≠ d.placeOf (directory.child n) := by
  obtain ⟨p, m, h, hm⟩ :=
    Path.exists_ofText_eq_child (e := Run.temporaryEnd) (by decide) (by decide) lead
  have hdots : m ≠ [dot, dot] := by
    rintro rfl
    exact absurd hm (by decide)
  rw [h, d.placeOf_child p hdots, d.placeOf_child directory hn.ne_dots]
  intro he
  obtain rfl : m = n := List.singleton_inj.mp (List.append_inj' he rfl).2
  exact hn.not_temporaryEnd_isSuffix hm

end Disk

namespace Run

/-! ## What stays -/

/-- **Writing a script leaves what is where another one in the same directory goes**, and leaves
nothing there if nothing was, unless the way to it goes up from where no directory is. -/
theorem indifferent_keeping_beside {d : Disk} {x : Option Node} {t t' : Path} (h : t.Beside t')
    (hx : x = none → d.IsTree ∧ ¬ d.Climbs t) :
    Indifferent (World.Keeping d (d.placeOf t) x) t' := by
  obtain ⟨directory, n, n', hwell, hn, hn', hne, rfl, rfl⟩ := h
  have hparent : (directory.child n').parent.names = directory.names := List.dropLast_concat
  refine indifferent_keeping (fun hnone p hroot hnames hplace => ?_) (d.placeOf_temporary_ne hn) ?_
  · rw [hparent] at hnames
    have hp : p.WellFormed :=
      ⟨hroot ▸ hwell.root, fun m hm => hwell.names m (hnames.subset hm)⟩
    rw [Path.ofText_text hp] at hplace
    exact (hx hnone).1.find?_placeOf_child hroot hnames (hx hnone).2 hplace
  · rw [Path.ofText_text (hwell.childScript hn'), d.placeOf_child _ hn.ne_dots,
      d.placeOf_child _ hn'.ne_dots]
    exact fun he => hne (List.singleton_inj.mp (List.append_inj' he rfl).2).symm

theorem indifferent_free {d : Disk} (hd : d.IsTree) {t t' : Path} (h : t.Beside t')
    (hc : ¬ d.Climbs t) : Indifferent (Free d t) t' :=
  (indifferent_keeping_beside h fun _ => ⟨hd, hc⟩).imp _

theorem keeps_convertAll_stands {s : Settings} {t : Path} {content : Bytes}
    {pairs : List (Source × Option Path)} (h : ∀ pair ∈ pairs, ∀ t' ∈ pair.2, t.Beside t') :
    Triple (World.Stands t content) (convertAll s pairs) (fun _ => World.Stands t content)
      fun _ _ => False := by
  rintro w ⟨d, q, hl, hk⟩
  have hindifferent : ∀ pair ∈ pairs, ∀ t' ∈ pair.2,
      Indifferent (World.Keeping d q (some (.file content))) t' := by
    intro pair hpair t' ht'
    have hbeside := h pair hpair t' ht'
    rw [Disk.locate_text_eq_ok hbeside.wellFormed hl]
    exact indifferent_keeping_beside hbeside nofun
  have hkeeps := keeps_convertAll (settled_keeping d q _) s hindifferent
  exact (hkeeps.mono_answer fun _ _ h => ⟨d, q, hl, h⟩) w hk

theorem keeps_convertAll_written {s : Settings} {t : Path} {script : Text}
    {pairs : List (Source × Option Path)} (h : ∀ pair ∈ pairs, ∀ t' ∈ pair.2, t.Beside t') :
    Triple (Written s t script) (convertAll s pairs) (fun _ => Written s t script)
      fun _ _ => False := by
  rintro w ⟨header, hheader, hw⟩
  exact ((keeps_convertAll_stands h).mono_answer fun _ _ h => ⟨header, hheader, h⟩) w hw

/-! ## All sources -/

/-- Sources whose targets, if they have any, are beside each other. -/
def AreBeside (a b : Source × Option Path) : Prop := ∀ t ∈ a.2, ∀ t' ∈ b.2, t.Beside t'

instance : Std.Symm AreBeside := ⟨fun _ _ h t ht t' ht' => (h t' ht' t ht).symm⟩

/-- Scripts with names of their own in one directory, if there are more than one. -/
def Apart (pairs : List (Source × Option Path)) : Prop := pairs.Pairwise AreBeside

/-- **The scripts that a batch writes stay.** -/
theorem triple_convertAll_written (s : Settings) {pairs : List (Source × Option Path)}
    (h : Apart pairs) :
    Triple (fun _ => True) (convertAll s pairs)
      (fun r w => ∀ o ∈ r.1, ∀ t ∈ o.target, (∃ pair ∈ pairs, t ∈ pair.2) ∧
        Written s t (o.result.script.getD []) w)
      fun _ _ => False := by
  induction pairs with
  | nil => exact Triple.pure fun _ _ o ho => absurd ho List.not_mem_nil
  | cons pair pairs ih =>
    obtain ⟨source, target⟩ := pair
    obtain ⟨hbeside, hrest⟩ := List.pairwise_cons.mp h
    rw [convertAll]
    refine (triple_attempt (triple_convertSource_written s source target)).bind fun r => ?_
    cases r with
    | error stop => exact Triple.pure fun _ _ o ho => absurd ho List.not_mem_nil
    | ok o =>
      intro w hw
      have hkeeps := (ih hrest).and_forall (I := fun t => t ∈ o.target)
        (K := fun t => Written s t (o.result.script.getD [])) fun t ht =>
          (keeps_convertAll_written fun pair' hpair' =>
            hbeside pair' hpair' t (hw t ht).1).mono_stop fun _ _ h => h.elim
      refine (hkeeps.bind fun r => Triple.pure ?_) w ⟨trivial, fun t ht => (hw t ht).2⟩
      rintro v ⟨hall, ho⟩
      refine List.forall_mem_cons.mpr ⟨fun t ht => ?_, fun o' ho' t ht => ?_⟩
      · exact ⟨⟨_, List.mem_cons_self, (hw t ht).1⟩, ho t ht⟩
      · obtain ⟨⟨pair', hpair', ht'⟩, hwritten⟩ := hall o' ho' t ht
        exact ⟨⟨pair', List.mem_cons_of_mem _ hpair', ht'⟩, hwritten⟩

/-- A batch that stops has not come to its last source. -/
theorem triple_convertAll_length (s : Settings) (pairs : List (Source × Option Path)) :
    Triple (fun _ => True) (convertAll s pairs)
      (fun r _ => ∀ e, r.2 = .error e → r.1.length < pairs.length) fun _ _ => False := by
  induction pairs with
  | nil => exact Triple.pure fun _ _ => nofun
  | cons pair pairs ih =>
    obtain ⟨source, target⟩ := pair
    rw [convertAll]
    refine (triple_attempt (Answers.any _)).bind fun r => ?_
    cases r with
    | error stop => exact Triple.pure fun _ _ _ _ => Nat.succ_pos _
    | ok o =>
      exact (ih.mono_before fun _ _ => trivial).bind fun r =>
        Triple.pure fun _ h e he => Nat.succ_lt_succ (h e he)

/-- **Where nothing is at the targets, none is found taken later on.** -/
theorem triple_convertAll_free {d : Disk} (hd : d.IsTree) (s : Settings)
    {pairs : List (Source × Option Path)} (h : Apart pairs)
    (hpairs : ∀ pair ∈ pairs, ∀ t ∈ pair.2, t.WellFormed ∧ ¬ d.Climbs t) :
    Triple (fun w => ∀ pair ∈ pairs, ∀ t ∈ pair.2, Free d t w) (convertAll s pairs)
      (fun r _ => ∀ e, r.2 = .error e → ¬ e.IsTaken) fun _ _ => False := by
  induction pairs with
  | nil => exact Triple.pure fun _ _ => nofun
  | cons pair pairs ih =>
    obtain ⟨source, target⟩ := pair
    obtain ⟨hbeside, hrest⟩ := List.pairwise_cons.mp h
    obtain ⟨htarget, hpairs⟩ := List.forall_mem_cons.mp hpairs
    have hfree := (triple_convertSource_free (d := d) (fun t ht => (htarget t ht).1) s
      source).and_forall (I := fun t => ∃ pair' ∈ pairs, t ∈ pair'.2) (K := Free d)
        fun t ⟨pair', hpair', ht⟩ => Triple.mono_stop (keeps_convertSource (settled_free d t) s
          source fun t' ht' => indifferent_free hd (hbeside pair' hpair' t' ht' t ht).symm
            (hpairs pair' hpair' t ht).2) fun _ _ _ => trivial
    rw [convertAll]
    refine Triple.bind ((triple_attempt hfree).mono_before ?_) fun r => ?_
    · intro w hw
      obtain ⟨hw, hws⟩ := List.forall_mem_cons.mp hw
      exact ⟨hw, fun t ⟨pair', hpair', ht⟩ => hws pair' hpair' t ht⟩
    cases r with
    | error stop =>
      refine Triple.pure fun _ hstop e he => ?_
      rw [← Except.error.inj he]
      exact hstop
    | ok o =>
      refine Triple.bind ((ih hrest hpairs).mono_before ?_) fun r => Triple.pure fun _ h => h
      exact fun w hw pair' hpair' t ht => hw.2 t ⟨pair', hpair', ht⟩

end Run

end HiveScript
