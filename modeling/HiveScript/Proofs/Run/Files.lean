import HiveScript.Proofs.Run.Keeping
import HiveScript.Run.Files

/-!
# Writing in one step

Writing a file makes directories, a temporary file and the file itself, and nothing else.

* `Run.Indifferent`: conditions that the operations of such a writing leave as they are;
  `keeps_writeAtomically`.
* **`indifferent_keeping`**: what is at any other place stays.
* `World.Stands`, **`triple_writeAtomically`**: the file is there with what was written.
-/

namespace HiveScript

/-- A stop because of a failure. -/
def Stop.IsFailure (e : Stop) : Prop := ∃ f, e = .failure f

namespace Run

/-! ## Single operations -/

theorem triple_onDisk {P : World → Prop} {Q : PUnit → World → Prop} {E : Stop → World → Prop}
    {path : Text} {goal : Option Text} {op : Disk → Except FileProblem Disk}
    (hok : ∀ w d, P w → op w.disk = .ok d → Q ⟨⟩ { w with disk := d })
    (herror : ∀ w f, P w → E (.failure f) w) : Triple P (onDisk path goal op) Q E := by
  rw [onDisk]
  refine Triple.bind (Q := fun _ => P)
    (Triple.ofExcept (fun _ _ _ h => h) fun f _ w h => herror w f h) fun _ => ?_
  refine Triple.get.bind fun w => ?_
  cases hop : op w.disk with
  | ok d =>
    refine Triple.bind (Q := fun e v => e = d ∧ v = w ∧ P w) (Triple.pure ?_) fun e => ?_
    · rintro v ⟨rfl, hv⟩
      exact ⟨rfl, rfl, hv⟩
    · refine Triple.set ?_
      rintro v ⟨rfl, rfl, hw⟩
      exact hok v e hw hop
  | error problem =>
    refine Triple.bind (Q := fun _ _ => False) (Triple.throw ?_) fun _ => fun _ h => h.elim
    rintro v ⟨rfl, hv⟩
    exact herror w _ hv

/-- An operation, where it succeeds, leaves a condition as it is. -/
def Undisturbed (P : World → Prop) (op : Disk → Except FileProblem Disk) : Prop :=
  ∀ w d, P w → op w.disk = .ok d → P { w with disk := d }

/-- The operations of writing a file in one step leave a condition as it is. -/
structure Indifferent (P : World → Prop) (target : Path) : Prop where
  makeDirectory : ∀ p : Path, p.root = target.root → p.names <+: target.parent.names →
    Undisturbed P fun d => d.makeDirectory p.text
  create : ∀ lead, Undisturbed P fun d => d.create (lead ++ temporaryEnd)
  write : ∀ lead content, Undisturbed P fun d => d.write (lead ++ temporaryEnd) content
  rename : ∀ lead, Undisturbed P fun d => d.rename (lead ++ temporaryEnd) target.text
  remove : ∀ lead, Undisturbed P fun d => d.remove (lead ++ temporaryEnd)
  detach : ∀ place w, P w →
    P { w with log := { w.log with sinks := w.log.sinks.map (Sink.detach place) } }

/-! ## Steps -/

section

variable {P : World → Prop}

theorem keeps_onDisk {path : Text} {goal : Option Text} {op : Disk → Except FileProblem Disk}
    (h : Undisturbed P op) : Keeps P Stop.IsFailure (onDisk path goal op) :=
  triple_onDisk h fun _ f hw => ⟨⟨f, rfl⟩, hw⟩

theorem keeps_find? (path : Text) : Keeps P Stop.IsFailure (find? path) := by
  rw [find?]
  split
  · exact Keeps.pure
  · refine Keeps.get.bind fun w => ?_
    split
    · exact Keeps.pure
    · exact Keeps.pure
    · exact Keeps.pure
    · exact Keeps.throw ⟨_, rfl⟩

theorem keeps_makeLast {path : Path} (h : Undisturbed P fun d => d.makeDirectory path.text) :
    Keeps P Stop.IsFailure (makeLast path) := by
  refine (keeps_onDisk h).tryCatch ?_
  rintro _ ⟨f, rfl⟩
  split
  · exact Keeps.throw ⟨_, rfl⟩
  · refine (keeps_find? _).bind fun n => ?_
    split_ifs
    · exact Keeps.pure
    · exact Keeps.throw ⟨_, rfl⟩
  · exact Keeps.throw ⟨_, rfl⟩

theorem keeps_makeDirectoriesFor (fuel : Nat) {path : Path}
    (h : ∀ p : Path, p.root = path.root → p.names <+: path.names →
      Undisturbed P fun d => d.makeDirectory p.text) :
    Keeps P Stop.IsFailure (makeDirectoriesFor fuel path) := by
  have hlast := keeps_makeLast (h path rfl (List.prefix_refl _))
  induction fuel generalizing path with
  | zero => exact hlast
  | succ fuel ih =>
    rw [makeDirectoriesFor]
    refine hlast.tryCatch ?_
    rintro _ ⟨f, rfl⟩
    split
    · split_ifs
      · exact Keeps.throw ⟨_, rfl⟩
      · have hparent : ∀ p : Path, p.root = path.parent.root → p.names <+: path.parent.names →
            Undisturbed P fun d => d.makeDirectory p.text :=
          fun p hroot hnames => h p hroot (hnames.trans (List.dropLast_prefix _))
        exact (ih hparent (keeps_makeLast (hparent _ rfl (List.prefix_refl _)))).bind fun _ => hlast
    · exact Keeps.throw ⟨_, rfl⟩

theorem triple_createTemporaryFrom {last : Text}
    (h : ∀ lead, Undisturbed P fun d => d.create (lead ++ last)) (directory name : Text)
    (fuel n : Nat) :
    Triple P (createTemporaryFrom directory name last fuel n)
      (fun path w => (∃ lead, path = lead ++ last) ∧ P w) fun e w => e.IsFailure ∧ P w := by
  have hcreate : ∀ n, Triple P (do
      onDisk (temporaryPath directory name last n) none fun d =>
        d.create (temporaryPath directory name last n)
      return temporaryPath directory name last n)
      (fun path w => (∃ lead, path = lead ++ last) ∧ P w) fun e w => e.IsFailure ∧ P w :=
    fun n => Triple.bind (keeps_onDisk (h _)) fun _ => Triple.pure fun _ hw => ⟨⟨_, rfl⟩, hw⟩
  induction fuel generalizing n with
  | zero => exact hcreate n
  | succ fuel ih =>
    rw [createTemporaryFrom]
    refine (hcreate n).tryCatch fun e => ?_
    split
    · exact (ih _).mono_before fun _ h => h.2
    · exact Triple.throw fun _ h => h

theorem triple_createTemporary {last : Text}
    (h : ∀ lead, Undisturbed P fun d => d.create (lead ++ last)) (directory : Path) (name : Text) :
    Triple P (createTemporary directory name last)
      (fun path w => (∃ lead, path = lead ++ last) ∧ P w) fun e w => e.IsFailure ∧ P w :=
  Triple.bind Keeps.get fun _ => triple_createTemporaryFrom h _ _ _ _

theorem keeps_removeIfThere {path : Text} (h : Undisturbed P fun d => d.remove path) :
    Keeps P Stop.IsFailure (removeIfThere path) := by
  refine (keeps_onDisk h).tryCatch ?_
  rintro _ ⟨f, rfl⟩
  split
  · exact Keeps.pure
  · exact Keeps.throw ⟨_, rfl⟩

theorem keeps_replace {source target : Text} (h : Undisturbed P fun d => d.rename source target)
    (hdetach : ∀ place w, P w →
      P { w with log := { w.log with sinks := w.log.sinks.map (Sink.detach place) } }) :
    Keeps P Stop.IsFailure (replace source target) := by
  refine (Keeps.ofExcept fun f => ⟨f, rfl⟩).bind fun _ => (keeps_onDisk h).bind fun _ => ?_
  refine Triple.get.bind fun w => ?_
  split
  · exact Triple.set fun v hv => hdetach _ w (hv.1 ▸ hv.2)
  · exact Triple.pure fun _ h => h.2

/-- Writing a file in one step keeps what its operations leave as it is. -/
theorem keeps_writeAtomically {target : Path} (h : Indifferent P target) (content : Bytes) :
    Keeps P Stop.IsFailure (writeAtomically target content) := by
  refine (keeps_makeDirectoriesFor _ h.makeDirectory).bind fun _ => ?_
  refine (triple_createTemporary h.create _ _).bind fun temporary => ?_
  rintro w ⟨⟨lead, rfl⟩, hw⟩
  refine (Keeps.tryCatch (T := Stop.IsFailure) ((keeps_onDisk (h.write lead content)).bind fun _ =>
    keeps_replace (h.rename lead) h.detach) fun e he => ?_) w hw
  exact (keeps_removeIfThere (h.remove lead)).bind fun _ => Keeps.throw he

theorem Indifferent.imp {target : Path} (h : Indifferent P target) (φ : Prop) :
    Indifferent (fun w => φ → P w) target where
  makeDirectory p hroot hnames w d hw hd hφ := h.makeDirectory p hroot hnames w d (hw hφ) hd
  create lead w d hw hd hφ := h.create lead w d (hw hφ) hd
  write lead content w d hw hd hφ := h.write lead content w d (hw hφ) hd
  rename lead w d hw hd hφ := h.rename lead w d (hw hφ) hd
  remove lead w d hw hd hφ := h.remove lead w d (hw hφ) hd
  detach place w hw hφ := h.detach place w (hw hφ)

theorem indifferent_true (target : Path) : Indifferent (fun _ => True) target where
  makeDirectory _ _ _ _ _ _ _ := trivial
  create _ _ _ _ _ := trivial
  write _ _ _ _ _ _ := trivial
  rename _ _ _ _ _ := trivial
  remove _ _ _ _ _ := trivial
  detach _ _ _ := trivial

end

/-! ## What is at other places -/

section

variable {d : Disk} {q : Place} {x : Option Node}

theorem undisturbed_keeping {op : Disk → Except FileProblem Disk}
    (h : ∀ e e', d.Grows e → e.find? q = x → op e = .ok e' → ∃ ps, Disk.Alters ps e e' ∧ q ∉ ps) :
    Undisturbed (World.Keeping d q x) op := by
  intro w e hw hop
  obtain ⟨ps, halters, hq⟩ := h w.disk e hw.grows hw.node hop
  exact hw.alters halters hq

/-- **What is at another place stays**: at one that is none of the directories made, none of a
temporary file, and not that of the target. A directory that is there already is not made. -/
theorem indifferent_keeping {target : Path}
    (hdirectory : x = none → ∀ p : Path, p.root = target.root → p.names <+: target.parent.names →
      d.placeOf (.ofText p.text) = q → d.find? q = some .directory)
    (htemporary : ∀ lead, d.placeOf (.ofText (lead ++ temporaryEnd)) ≠ q)
    (htarget : d.placeOf (.ofText target.text) ≠ q) :
    Indifferent (World.Keeping d q x) target := by
  have hne : ∀ {e : Disk} {path : Text} {p : Place}, d.Grows e →
      d.placeOf (.ofText path) ≠ q → e.locate path = .ok p → q ≠ p := by
    rintro e path p hgrows hpath hl rfl
    exact hpath (by rw [Disk.locate_eq_ok hl, hgrows.placeOf])
  refine ⟨fun p hroot hnames => ?_, fun lead => ?_, fun lead content => ?_, fun lead => ?_,
    fun lead => ?_, fun place w hw => ⟨hw.grows, hw.node, fun hx s hs => ?_⟩⟩
  · refine undisturbed_keeping fun e e' hgrows hx hop => ?_
    obtain ⟨r, hl, hr, rfl⟩ := Disk.makeDirectory_eq_ok hop
    refine ⟨[r], Disk.alters_put _ (by rw [hr]; exact nofun), fun hq => ?_⟩
    obtain rfl : q = r := by simpa using hq
    have hplace : d.placeOf (.ofText p.text) = q := by
      rw [Disk.locate_eq_ok hl, hgrows.placeOf]
    have hthere := hgrows.directory q (hdirectory (hx.symm.trans hr) p hroot hnames hplace)
    exact absurd (hr.symm.trans hthere) nofun
  · refine undisturbed_keeping fun e e' hgrows _ hop => ?_
    obtain ⟨r, hl, hr, rfl⟩ := Disk.create_eq_ok hop
    exact ⟨[r], Disk.alters_put _ (by rw [hr]; exact nofun),
      by simpa using hne hgrows (htemporary lead) hl⟩
  · refine undisturbed_keeping fun e e' hgrows _ hop => ?_
    obtain ⟨r, hl, hr, rfl⟩ := Disk.write_eq_ok hop
    exact ⟨[r], Disk.alters_put _ hr, by simpa using hne hgrows (htemporary lead) hl⟩
  · refine undisturbed_keeping fun e e' hgrows _ hop => ?_
    obtain ⟨p, r, content, hp, hr, hfile, hdirectory, rfl⟩ := Disk.rename_eq_ok hop
    exact ⟨[p] ++ [r], Disk.alters_rename hfile hdirectory,
      by simpa using ⟨hne hgrows (htemporary lead) hp, hne hgrows htarget hr⟩⟩
  · refine undisturbed_keeping fun e e' hgrows _ hop => ?_
    obtain ⟨r, content, hl, hr, rfl⟩ := Disk.remove_eq_ok hop
    exact ⟨[r], Disk.alters_erase (by rw [hr]; exact nofun),
      by simpa using hne hgrows (htemporary lead) hl⟩
  · obtain ⟨t, ht, rfl⟩ := List.mem_map.mp hs
    rw [Sink.detach]
    split
    · split_ifs
      · exact nofun
      · exact hw.unlogged hx t ht
    · exact hw.unlogged hx t ht

end

end Run

/-! ## What is written -/

/-- A file has some content, to which no sink adds. -/
def World.Stands (target : Path) (content : Bytes) (w : World) : Prop :=
  ∃ d q, d.locate target.text = .ok q ∧ w.Keeping d q (some (.file content))

theorem World.Stands.read {target : Path} {content : Bytes} {w : World}
    (h : w.Stands target content) : w.disk.read target.text = .ok content := by
  obtain ⟨d, q, hl, hk⟩ := h
  exact Disk.read_eq_ok_iff.mpr ⟨q, hk.grows.locate hl, hk.node⟩

namespace Run

theorem settled_stands (target : Path) (content : Bytes) : Settled (World.Stands target content) :=
  Settled.exists fun d => Settled.exists fun q => (settled_keeping d q _).and_left _

/-- A sink that is detached from a place does not add to what is there. -/
theorem target_detach_ne (place : Place) (s : Sink) :
    (Sink.detach place s).target ≠ .file place true := by
  rw [Sink.detach]
  split
  · next p attached hp =>
    split_ifs with hpp
    · exact nofun
    · rw [hp]
      exact fun h => hpp (SinkTarget.file.inj h).1
  · next hp =>
    rw [hp]
    exact nofun

/-- A sink that adds to what is at a place did so before another place was detached. -/
theorem target_of_target_detach {place q : Place} {s : Sink}
    (h : (Sink.detach place s).target = .file q true) : s.target = .file q true := by
  rw [Sink.detach] at h
  split at h
  · split_ifs at h
    · exact absurd h nofun
    · exact h
  · exact h

/-- The renamed file holds what the temporary one held, and no sink adds to it. -/
theorem triple_replace {temporary : Text} {target : Path} {content : Bytes} :
    Triple (fun w => ∃ p, w.disk.locate temporary = .ok p ∧ w.disk.find? p = some (.file content))
      (replace temporary target.text) (fun _ => World.Stands target content)
      fun _ _ => True := by
  refine (Triple.ofExcept (fun _ _ _ h => h) fun _ _ _ _ => trivial).bind fun _ => ?_
  refine Triple.bind (Q := fun _ w => ∃ r, w.disk.locate target.text = .ok r ∧
    w.disk.find? r = some (.file content)) ?_ fun _ => ?_
  · refine triple_onDisk ?_ fun _ _ _ => trivial
    rintro w e ⟨p, hp, hfile⟩ hop
    obtain ⟨p', r, content', hp', hr, hfile', hdirectory, rfl⟩ := Disk.rename_eq_ok hop
    obtain rfl : p = p' := Except.ok.inj (hp.symm.trans hp')
    obtain rfl : content = content' := by simpa [hfile] using hfile'
    exact ⟨r, (Disk.alters_rename hfile hdirectory).toGrows.locate hr,
      Disk.find?_put_self (Disk.ne_nil_of_find?_ne hdirectory)⟩
  · refine Triple.get.bind fun w => ?_
    split
    · next place hplace =>
      refine Triple.set ?_
      rintro _ ⟨rfl, r, hr, hfile⟩
      obtain rfl : place = r := Except.ok.inj (hplace.symm.trans hr)
      refine ⟨w.disk, place, hplace, Disk.Grows.refl _, hfile, fun _ s hs => ?_⟩
      obtain ⟨t, -, rfl⟩ := List.mem_map.mp hs
      exact target_detach_ne place t
    · next e he =>
      refine Triple.pure ?_
      rintro _ ⟨rfl, r, hr, -⟩
      exact absurd (he.symm.trans hr) nofun

/-- **A file that is written holds what was written**, and no sink adds to it. -/
theorem triple_writeAtomically (target : Path) (content : Bytes) :
    Triple (fun _ => True) (writeAtomically target content)
      (fun _ => World.Stands target content) fun _ _ => True := by
  refine Triple.bind (Answers.any _) fun _ => Triple.bind (Answers.any _) fun temporary => ?_
  refine Triple.tryCatch (F := fun _ _ => True) (Triple.bind ?_ fun _ => triple_replace) fun e => ?_
  · refine triple_onDisk ?_ fun _ _ _ => trivial
    intro w e _ hop
    obtain ⟨p, hl, hp, rfl⟩ := Disk.write_eq_ok hop
    exact ⟨p, (Disk.alters_put _ hp).toGrows.locate hl,
      Disk.find?_put_self (Disk.ne_nil_of_find?_ne hp)⟩
  · exact Triple.bind (Q := fun _ _ => True) (Answers.any _) fun _ =>
      Triple.throw fun _ _ => trivial

end Run

end HiveScript
