import HiveScript.Proofs.Disk.Overlays
import HiveScript.Proofs.Run.Files

/-!
# What is left of a writing in one step

A writing in one step ends in one of two ways: the file holds what was written, or all files are as
they were. In both there may be further directories on the way, and nothing is left of the temporary
file.

* `Disk.Aside`: a disk with a temporary file beside all else.
* `World.Placed`, `World.Cleared`: the two endings.
* `Run.Confined`, `Run.Ends`; **`Run.triple_atomically`**: a block with a temporary file that it
  alone changes.
* **`Run.triple_writeAtomically_placed`**: the writing of a file.
-/

namespace HiveScript

/-! ## Disks with a temporary file -/

/-- A disk that differs from another one at most at one place, where there was nothing and is no
directory. -/
structure Disk.Aside (p : Place) (d d' : Disk) : Prop where
  here : d'.here = d.here
  other : ∀ q, q ≠ p → d'.find? q = d.find? q
  free : d.find? p = none
  file : d'.find? p ≠ some .directory

namespace Disk.Aside

variable {p : Place} {d d' : Disk}

theorem find?_eq_directory_iff (h : Aside p d d') {q : Place} :
    d'.find? q = some .directory ↔ d.find? q = some .directory := by
  by_cases hq : q = p
  · subst hq
    rw [h.free]
    exact iff_of_false h.file nofun
  · rw [h.other q hq]

theorem grows (h : Aside p d d') : d.Grows d' := ⟨h.here, fun _ => h.find?_eq_directory_iff.mpr⟩

theorem grows_back (h : Aside p d d') : d'.Grows d :=
  ⟨h.here.symm, fun _ => h.find?_eq_directory_iff.mp⟩

theorem ne_nil (h : Aside p d d') : p ≠ [] := ne_nil_of_find?_ne (by rw [h.free]; exact nofun)

theorem put (h : Aside p d d') (content : Bytes) : Aside p d (d'.put p (.file content)) where
  here := h.here
  other q hq := (find?_put_of_ne hq).trans (h.other q hq)
  free := h.free
  file := by
    rw [find?_put_self h.ne_nil]
    exact nofun

/-- Without the temporary file all is as before. -/
theorem find?_erase (h : Aside p d d') (q : Place) : (d'.erase p).find? q = d.find? q := by
  by_cases hq : q = p
  · rw [hq, find?_erase_self h.ne_nil, h.free]
  · rw [find?_erase_of_ne hq, h.other q hq]

/-- The temporary file can be taken away, if it is there. -/
theorem remove (h : Aside p d d') {path : Text} (hl : d.locate path = .ok p) :
    d'.remove path = if d'.find? p = none then .error .noEntry else .ok (d'.erase p) := by
  rw [Disk.remove, h.grows.locate hl]
  dsimp only [bind, Except.bind]
  cases hp : d'.find? p with
  | none => rw [if_pos rfl]
  | some m =>
    rw [if_neg (Option.some_ne_none m)]
    cases m with
    | directory => exact absurd hp h.file
    | file content => rfl

end Disk.Aside

theorem Disk.aside_create {p : Place} {d : Disk} (hp : d.find? p = none) :
    Aside p d (d.put p (.file [])) := by
  have hne : p ≠ [] := ne_nil_of_find?_ne (by rw [hp]; exact nofun)
  refine ⟨rfl, fun _ hq => find?_put_of_ne hq, hp, ?_⟩
  rw [find?_put_self hne]
  exact nofun

/-- A file can be put only where the path ends in a name. -/
theorem Disk.endsInName_of_rename_eq_ok {d d' : Disk} {source target : Text}
    (h : d.rename source target = .ok d') : endsInName target = true := by
  obtain ⟨p, -, h⟩ := exists_of_bind_eq_ok h
  obtain ⟨q, -, h⟩ := exists_of_bind_eq_ok h
  by_contra hname
  rw [if_pos (by simpa using hname)] at h
  cases h

/-! ## Endings -/

/-- A world in which a file took its place, and which has no sink any more that adds to it. -/
structure World.Replaced (target : Text) (q : Place) (content : Bytes) (w v : World) : Prop where
  check : checkPath target = .ok ()
  name : Disk.endsInName target = true
  locate : w.disk.locate target = .ok q
  directory : w.disk.find? q ≠ some .directory
  here : v.disk.here = w.disk.here
  find? : ∀ r, v.disk.find? r = if r = q then some (.file content) else w.disk.find? r
  eq : v = { w with
    disk := v.disk
    log := { w.log with sinks := w.log.sinks.map (Run.Sink.detach q) } }

/-- A world with a temporary file. -/
def World.Holding (p : Place) (w v : World) : Prop :=
  Disk.Aside p w.disk v.disk ∧ v = { w with disk := v.disk }

/-- A world with further directories on the way. -/
def World.Cleared (way : Path) (w v : World) : Prop :=
  Disk.Paved way w.disk v.disk ∧ v = { w with disk := v.disk }

/-- A world with a file that was written in one step, and with further directories on the way. -/
def World.Placed (way target : Path) (content : Bytes) (w v : World) : Prop :=
  ∃ u q, w.Cleared way u ∧ u.Replaced target.text q content v

theorem World.Replaced.grows {target : Text} {q : Place} {content : Bytes} {w v : World}
    (h : w.Replaced target q content v) : w.disk.Grows v.disk where
  here := h.here
  directory r hr := by
    have hrq : r ≠ q := fun hrq => h.directory (hrq ▸ hr)
    rw [h.find? r, if_neg hrq, hr]

theorem World.Replaced.read {target : Text} {q : Place} {content : Bytes} {w v : World}
    (h : w.Replaced target q content v) : v.disk.read target = .ok content := by
  refine Disk.read_eq_ok_iff.mpr ⟨q, h.grows.locate h.locate, ?_⟩
  rw [h.find? q, if_pos rfl]

/-- The directories stay when all else is as before. -/
theorem World.Cleared.of_same {way : Path} {w u v : World} (h : w.Cleared way u)
    (here : v.disk.here = u.disk.here) (find? : ∀ q, v.disk.find? q = u.disk.find? q)
    (hv : v = { u with disk := v.disk }) : w.Cleared way v := by
  refine ⟨h.1.trans (.of_same here find?), ?_⟩
  rw [hv, h.2]

namespace Run

variable {w : World}

/-! ## Single operations -/

theorem after_onDisk (path : Text) (goal : Option Text) (op : Disk → Except FileProblem Disk)
    (w : World) :
    (onDisk path goal op).after w =
      match checkPath path, op w.disk with
      | .error f, _ => (.error (.failure f), w)
      | .ok _, .ok disk => (.ok ⟨⟩, { w with disk })
      | .ok _, .error problem => (.error (.failure (.file ⟨problem, path, goal⟩)), w) := by
  rw [onDisk]
  cases checkPath path with
  | error f => rfl
  | ok _ =>
    change (do
      let v ← get
      let disk ← refuse path goal (op v.disk)
      set { v with disk } : Run Unit).after w = _
    change (refuse path goal (op w.disk) >>= fun disk => set { w with disk }).after w = _
    cases op w.disk <;> rfl

theorem triple_makeDirectories (path : Path) :
    Triple (fun v => v = w) (makeDirectories path) (fun _ v => w.Cleared path v)
      fun _ v => w.Cleared path v := by
  have hkeeps : Keeps (w.Cleared path) Stop.IsFailure (makeDirectories path) := by
    refine keeps_makeDirectoriesFor _ fun p hroot hnames v d hv hd => ?_
    obtain ⟨hpaved, hv⟩ := hv
    exact ⟨hpaved.trans (.makeDirectory hroot hnames hd), by rw [hv]⟩
  refine Triple.mono hkeeps ?_ (fun _ _ h => h) fun _ _ h => h.2
  rintro _ rfl
  exact ⟨.refl _ _, rfl⟩

/-- A temporary file is created where there was nothing. -/
theorem triple_createTemporary_free (directory : Path) (name last : Text) :
    Triple (fun v => v = w) (createTemporary directory name last)
      (fun path v => checkPath path = .ok () ∧ ∃ p, w.disk.locate path = .ok p ∧
        w.disk.find? p = none ∧ v = { w with disk := w.disk.put p (.file []) })
      fun _ v => v = w := by
  have hcreate : ∀ path, Triple (fun v => v = w) (do
      onDisk path none fun d => d.create path
      return path)
      (fun path v => checkPath path = .ok () ∧ ∃ p, w.disk.locate path = .ok p ∧
        w.disk.find? p = none ∧ v = { w with disk := w.disk.put p (.file []) })
      fun _ v => v = w := by
    intro path
    refine Triple.bind (Q := fun _ v => checkPath path = .ok () ∧
      ∃ d, w.disk.create path = .ok d ∧ v = { w with disk := d }) ?_ fun _ => Triple.pure ?_
    · rintro _ rfl
      rw [after_onDisk]
      split
      · rfl
      · next hcheck hop => exact ⟨hcheck, _, hop, rfl⟩
      · rfl
    · rintro _ ⟨hcheck, d, hd, rfl⟩
      obtain ⟨p, hl, hp, rfl⟩ := Disk.create_eq_ok hd
      exact ⟨hcheck, p, hl, hp, rfl⟩
  have hfrom : ∀ directory fuel n, Triple (fun v => v = w)
      (createTemporaryFrom directory name last fuel n)
      (fun path v => checkPath path = .ok () ∧ ∃ p, w.disk.locate path = .ok p ∧
        w.disk.find? p = none ∧ v = { w with disk := w.disk.put p (.file []) })
      fun _ v => v = w := by
    intro directory fuel
    induction fuel with
    | zero => exact fun n => hcreate _
    | succ fuel ih =>
      intro n
      rw [createTemporaryFrom]
      refine (hcreate _).tryCatch fun e => ?_
      split
      · exact ih _
      · exact Triple.throw fun _ h => h
  refine Triple.get.bind fun v => ?_
  rintro _ ⟨rfl, rfl⟩
  exact hfrom _ _ _ _ rfl

/-- A temporary file is taken away, if it is there. -/
theorem triple_removeIfThere_aside {temporary : Text} {p : Place} {d : Disk}
    (hcheck : checkPath temporary = .ok ()) (hl : d.locate temporary = .ok p)
    (haside : Disk.Aside p d w.disk) :
    Triple (fun v => v = w) (removeIfThere temporary)
      (fun _ v => v.disk.here = d.here ∧ (∀ q, v.disk.find? q = d.find? q) ∧
        v = { w with disk := v.disk })
      fun _ _ => False := by
  rintro _ rfl
  rw [removeIfThere, after_tryCatch, after_onDisk, hcheck, haside.remove hl]
  split_ifs with hp
  · refine ⟨haside.here, fun q => ?_, rfl⟩
    by_cases hq : q = p
    · rw [hq, hp, haside.free]
    · exact haside.other q hq
  · exact ⟨haside.here, haside.find?_erase, rfl⟩

/-- The temporary file takes the place of the target, or all is as before. -/
theorem triple_replace_aside {temporary target : Text} {p : Place} {d : Disk}
    (hl : d.locate temporary = .ok p) (haside : Disk.Aside p d w.disk) :
    Triple (fun v => v = w) (replace temporary target)
      (fun _ v => ∃ content q, w.disk.find? p = some (.file content) ∧
        World.Replaced target q content { w with disk := d } v)
      fun _ v => v = w := by
  refine (Triple.ofExcept (Q := fun _ v => checkPath target = .ok () ∧ v = w)
    (fun _ h _ hv => ⟨h, hv⟩) fun _ _ _ h => h).bind fun _ => ?_
  -- The log comes last; until then the world is the one before it.
  refine Triple.bind (Q := fun _ v => ∃ content q, w.disk.find? p = some (.file content) ∧
    World.Replaced target q content { w with disk := d }
      { v with log := { v.log with sinks := v.log.sinks.map (Sink.detach q) } }) ?_ fun _ => ?_
  · refine triple_onDisk ?_ fun _ _ h => h.2
    rintro _ e ⟨hcheck, rfl⟩ hop
    have hname := Disk.endsInName_of_rename_eq_ok hop
    obtain ⟨p', q, content, hp', hq, hfile, hdirectory, rfl⟩ := Disk.rename_eq_ok hop
    obtain rfl : p = p' := Except.ok.inj ((haside.grows.locate hl).symm.trans hp')
    refine ⟨content, q, hfile, hcheck, hname, haside.grows_back.locate hq,
      mt haside.find?_eq_directory_iff.mpr hdirectory, haside.here, fun r => ?_, rfl⟩
    split_ifs with hr
    · rw [hr]
      exact Disk.find?_put_self (Disk.ne_nil_of_find?_ne hdirectory)
    · exact (Disk.find?_put_of_ne hr).trans (haside.find?_erase r)
  · refine Triple.get.bind fun v => ?_
    rintro _ ⟨rfl, content, q, hcontent, hv⟩
    have hplace : v.disk.locate target = .ok q := hv.grows.locate hv.locate
    rw [hplace]
    exact ⟨content, q, hcontent, hv⟩

/-! ## Blocks with a temporary file -/

/-- A block that changes no file but the temporary one that it is given. -/
def Confined (body : Text → Run Unit) : Prop :=
  ∀ (d : Disk) temporary p, checkPath temporary = .ok () → d.locate temporary = .ok p →
    Keeps (fun v => Disk.Aside p d v.disk) (fun _ => True) (body temporary)

/-- How a block with a temporary file ends. The directories on the way come first. -/
inductive Ends (way target : Path) (body : Text → Run Unit) (w : World) :
    Except Stop Unit → World → Prop
  /-- The block does not begin. -/
  | early {e : Stop} {v : World} (cleared : w.Cleared way v) : Ends way target body w (.error e) v
  /-- The block or the renaming stops, and the temporary file is taken away. -/
  | undone {e : Stop} {r : Except Stop Unit} {temporary : Text} {d d' : Disk} {u v : World}
      (paved : Disk.Paved way w.disk d) (create : d.create temporary = .ok d')
      (body_eq : (body temporary).after { w with disk := d' } = (r, u))
      (here : v.disk.here = d.here) (find? : ∀ q, v.disk.find? q = d.find? q)
      (eq : v = { u with disk := v.disk }) : Ends way target body w (.error e) v
  /-- The temporary file takes the place of the target. -/
  | done {temporary : Text} {d d' : Disk} {u v : World} {content : Bytes} {q : Place}
      (paved : Disk.Paved way w.disk d) (create : d.create temporary = .ok d')
      (body_eq : (body temporary).after { w with disk := d' } = (.ok ⟨⟩, u))
      (left : u.disk.read temporary = .ok content)
      (replaced : World.Replaced target.text q content { u with disk := d } v) :
      Ends way target body w (.ok ⟨⟩) v

/-- **A block with a temporary file that it alone changes** puts this file in the place of the
target, or leaves all files as they were. -/
theorem triple_atomically {target : Path} {last : Text} {directory : Option Path}
    {body : Text → Run Unit} (hbody : Confined body) :
    Triple (fun v => v = w) (atomically target last directory true body)
      (fun a v => Ends (directory.getD target.parent) target body w (.ok a) v)
      fun e v => Ends (directory.getD target.parent) target body w (.error e) v := by
  set way := directory.getD target.parent
  refine ((triple_makeDirectories way).mono_stop fun _ _ => .early).bind fun _ => ?_
  rintro u hu
  refine Triple.bind ((triple_createTemporary_free (w := u) way target.name last).mono_stop
    fun _ _ h => .early (h ▸ hu)) (fun temporary => ?_) u rfl
  rintro _ ⟨hcheck, p, hl, hp, rfl⟩
  have hcreate : u.disk.create temporary = .ok (u.disk.put p (.file [])) := by
    simp only [Disk.create, hl, hp, bind, Except.bind, pure, Except.pure]
  have hstart : ({ u with disk := u.disk.put p (.file []) } : World) =
      { w with disk := u.disk.put p (.file []) } := by rw [hu.2]
  rw [hstart]
  refine Triple.tryCatch (P := fun v => v = { w with disk := u.disk.put p (.file []) })
    (F := fun _ v => Disk.Aside p u.disk v.disk ∧
      ∃ r, (body temporary).after { w with disk := u.disk.put p (.file []) } = (r, v))
    (Triple.bind (Q := fun _ v => Disk.Aside p u.disk v.disk ∧
      (body temporary).after { w with disk := u.disk.put p (.file []) } = (.ok ⟨⟩, v)) ?_
      fun _ => ?_) (fun e => ?_) _ rfl
  · have haside : ∀ v : World, v = { w with disk := u.disk.put p (.file []) } →
        Disk.Aside p u.disk v.disk := by
      rintro _ rfl
      exact Disk.aside_create hp
    have hkeeps := (hbody u.disk temporary p hcheck hl).mono_before haside
    exact hkeeps.and_after.mono_stop fun e _ h => ⟨h.1.2, _, h.2⟩
  · rintro v ⟨haside, hv⟩
    refine (triple_replace_aside hl haside).mono (fun _ h => h) ?_ ?_ v rfl
    · rintro _ v' ⟨content, q, hfile, hreplaced⟩
      refine .done hu.1 hcreate hv (Disk.read_eq_ok_iff.mpr ⟨p, haside.grows.locate hl, hfile⟩)
        hreplaced
    · rintro _ _ rfl
      exact ⟨haside, _, hv⟩
  · rw [if_pos rfl]
    rintro v ⟨haside, r, hv⟩
    refine (Triple.bind ((triple_removeIfThere_aside hcheck hl haside).mono_stop
      fun _ _ h => h.elim) fun _ => Triple.throw fun v' h => ?_) v rfl
    exact .undone hu.1 hcreate hv h.1 h.2.1 h.2.2

/-- A block that writes the temporary file. -/
theorem triple_write_holding {u : World} {temporary : Text} {p : Place} (content : Bytes)
    (hl : u.disk.locate temporary = .ok p) :
    Triple (fun v => u.Holding p v) (onDisk temporary none fun d => d.write temporary content)
      (fun _ v => u.Holding p v ∧ v.disk.find? p = some (.file content))
      fun _ v => u.Holding p v := by
  refine triple_onDisk ?_ fun _ _ h => h
  rintro v d ⟨haside, hv⟩ hop
  obtain ⟨p', hp', hfile, rfl⟩ := Disk.write_eq_ok hop
  obtain rfl : p = p' := Except.ok.inj ((haside.grows.locate hl).symm.trans hp')
  exact ⟨⟨haside.put content, by rw [hv]⟩, Disk.find?_put_self haside.ne_nil⟩

/-- What keeps all but a temporary file keeps files but this one. -/
theorem confined_of_holding {body : Text → Run Unit}
    (h : ∀ (u : World) temporary p, u.disk.locate temporary = .ok p →
      Keeps (u.Holding p) (fun _ => True) (body temporary)) : Confined body := by
  intro d temporary p _ hl v hv
  have hkeeps := h { v with disk := d } temporary p hl
  exact (Triple.mono hkeeps (fun _ h => h) (fun _ _ h => h.1) fun _ _ h => ⟨h.1, h.2.1⟩) v
    ⟨hv, rfl⟩

theorem confined_write (content : Bytes) :
    Confined fun temporary => onDisk temporary none fun d => d.write temporary content :=
  confined_of_holding fun _ _ _ hl => (triple_write_holding content hl).mono (fun _ h => h)
    (fun _ _ h => h.1) fun _ _ h => ⟨trivial, h⟩

/-- **The writing of a file** puts it in its place, or leaves all files as they were. -/
theorem triple_writeAtomically_placed (target : Path) (content : Bytes) :
    Triple (fun v => v = w) (writeAtomically target content)
      (fun _ v => w.Placed target.parent target content v)
      fun _ v => w.Cleared target.parent v := by
  -- What the block leaves differs from the world before it in the temporary file only.
  have hleft : ∀ {temporary : Text} {d d' : Disk} {r : Except Stop Unit} {u : World},
      d.create temporary = .ok d' →
      (onDisk temporary none fun d => d.write temporary content).after { w with disk := d' } =
        (r, u) →
      ({ u with disk := d } : World) = { w with disk := d } ∧
        (r = .ok ⟨⟩ → u.disk.read temporary = .ok content) := by
    intro temporary d d' r u hcreate hafter
    obtain ⟨p, hl, hp, rfl⟩ := Disk.create_eq_ok hcreate
    have hended := triple_write_holding (u := { w with disk := d }) content hl
      { w with disk := d.put p (.file []) } ⟨Disk.aside_create hp, rfl⟩
    rw [hafter] at hended
    cases r with
    | ok a =>
      obtain ⟨⟨haside, hu⟩, hfile⟩ := hended
      refine ⟨by rw [hu], fun _ => ?_⟩
      exact Disk.read_eq_ok_iff.mpr ⟨p, haside.grows.locate hl, hfile⟩
    | error e => exact ⟨by rw [hended.2], nofun⟩
  refine Triple.mono (triple_atomically (confined_write content)) (fun _ h => h) ?_ ?_
  · rintro a v hends
    cases hends with
    | @done _ d _ u _ found q paved create body_eq left replaced =>
      obtain ⟨hu, hread⟩ := hleft create body_eq
      obtain rfl : found = content := Except.ok.inj (left.symm.trans (hread rfl))
      rw [hu] at replaced
      exact ⟨{ w with disk := d }, q, ⟨paved, rfl⟩, replaced⟩
  · rintro e v hends
    cases hends with
    | early cleared => exact cleared
    | @undone _ _ _ d _ u _ paved create body_eq here find? eq =>
      obtain ⟨hu, -⟩ := hleft create body_eq
      have hcleared : w.Cleared target.parent { w with disk := d } := ⟨paved, rfl⟩
      refine hcleared.of_same here find? ?_
      rw [eq]
      exact congrArg (fun x : World => { x with disk := v.disk }) hu

end Run

end HiveScript
