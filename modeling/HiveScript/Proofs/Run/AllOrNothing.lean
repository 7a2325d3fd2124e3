import HiveScript.Proofs.Run.Atomic

/-!
# All or nothing

A block is given a temporary file, which it may write, take away or leave as it is, and it may stop
for any reason. Either the target then has what the block left in the temporary file, or no file is
another one than before.

* `Disk.Swapped`: a disk on which a file was written in one step.
* `Run.Confined`: blocks that change no other file; `confined_write`, `confined_remove`,
  `confined_throw`, `Confined.andThen`.
* **`Run.atomically_all_or_nothing`**: the two endings of a block with a temporary file, and of the
  writing of a file.
-/

namespace HiveScript

/-! ## Disks with a file that was written in one step -/

/-- A disk on which a file was written in one step. At each other place all is as before, or there
is a directory on the way that was not there; so nothing is left of a temporary file. -/
structure Disk.Swapped (way : Path) (target : Text) (content : Bytes) (d d' : Disk) : Prop where
  here : d'.here = d.here
  read : d'.read target = .ok content
  other : ∀ q, q ≠ d.placeOf (.ofText target) → d'.find? q = d.find? q ∨
    d.find? q = none ∧ d'.find? q = some .directory ∧ d.OnWay way q

namespace World

variable {way : Path} {target : Text} {q : Place} {content : Bytes} {w u v : World} {d : Disk}

/-- A file that takes its place once the directories on the way are there. -/
theorem Replaced.swapped (hpaved : Disk.Paved way d w.disk) (h : w.Replaced target q content v) :
    d.Swapped way target content v.disk := by
  refine ⟨h.here.trans hpaved.here, h.read, fun r hr => ?_⟩
  have hplace : d.placeOf (.ofText target) = q := by
    rw [← hpaved.grows.placeOf, Disk.locate_eq_ok h.locate]
  have hrq : r ≠ q := hplace ▸ hr
  rw [h.find? r, if_neg hrq]
  exact hpaved.find? r

end World

namespace Run

/-! ## Blocks that change one file -/

theorem confined_throw (e : Stop) : Confined fun _ => throw e :=
  fun _ _ _ _ _ => Keeps.throw trivial

theorem Confined.andThen {x y : Text → Run Unit} (hx : Confined x) (hy : Confined y) :
    Confined fun temporary => x temporary >>= fun _ => y temporary :=
  fun d temporary p hcheck hl =>
    (hx d temporary p hcheck hl).bind fun _ => hy d temporary p hcheck hl

theorem confined_remove :
    Confined fun temporary => onDisk temporary none fun d => d.remove temporary := by
  intro d temporary p _ hl
  refine (keeps_onDisk ?_).mono fun _ _ => trivial
  intro w e haside hop
  have hop : w.disk.remove temporary = .ok e := hop
  rw [haside.remove hl] at hop
  split_ifs at hop with hp
  obtain rfl := Except.ok.inj hop
  refine ⟨haside.here, fun q hq => (Disk.find?_erase_of_ne hq).trans (haside.other q hq),
    haside.free, ?_⟩
  rw [Disk.find?_erase_self haside.ne_nil]
  exact nofun

/-! ## The two endings -/

/-- What an ending is for the files. -/
theorem Ends.paved {way target : Path} {body : Text → Run Unit} {w v : World} {e : Stop}
    (h : Ends way target body w (.error e) v) : Disk.Paved way w.disk v.disk := by
  cases h with
  | early cleared => exact cleared.1
  | undone paved create body_eq here find? eq => exact paved.trans (.of_same here find?)

/-- **All or nothing.**

A block with a temporary file goes through, and then the target has what the block left in that
file, or it stops; and so does the writing of a file. All else is as before, but for further
directories on the way to the temporary file. -/
theorem atomically_all_or_nothing (target : Path) (w : World) :
    (∀ (last : Text) (directory : Option Path) (body : Text → Run Unit), Confined body →
      (∃ v temporary d d' u content,
        (atomically target last directory true body).after w = (.ok ⟨⟩, v) ∧
        Disk.Paved (directory.getD target.parent) w.disk d ∧ d.create temporary = .ok d' ∧
        (body temporary).after { w with disk := d' } = (.ok ⟨⟩, u) ∧
        u.disk.read temporary = .ok content ∧
        w.disk.Swapped (directory.getD target.parent) target.text content v.disk) ∨
      ∃ e v, (atomically target last directory true body).after w = (.error e, v) ∧
        Disk.Paved (directory.getD target.parent) w.disk v.disk) ∧
    ∀ content,
      (∃ v, (writeAtomically target content).after w = (.ok ⟨⟩, v) ∧
        w.disk.Swapped target.parent target.text content v.disk) ∨
      ∃ e v, (writeAtomically target content).after w = (.error e, v) ∧
        Disk.Paved target.parent w.disk v.disk := by
  refine ⟨fun last directory body hbody => ?_, fun content => ?_⟩
  · have hended : Triple (fun v => v = w) (atomically target last directory true body)
        (fun a v => Ends (directory.getD target.parent) target body w (.ok a) v)
        fun e v => Ends (directory.getD target.parent) target body w (.error e) v :=
      triple_atomically hbody
    specialize hended w rfl
    cases hafter : (atomically target last directory true body).after w with
    | mk r v =>
      rw [hafter] at hended
      cases r with
      | ok a =>
        cases hended with
        | done paved create body_eq left replaced =>
          exact .inl ⟨v, _, _, _, _, _, rfl, paved, create, body_eq, left, replaced.swapped paved⟩
      | error e => exact .inr ⟨e, v, rfl, Ends.paved hended⟩
  · have hended := triple_writeAtomically_placed (w := w) target content w rfl
    cases hafter : (writeAtomically target content).after w with
    | mk r v =>
      rw [hafter] at hended
      cases r with
      | ok a =>
        obtain ⟨u, q, hcleared, hreplaced⟩ := hended
        exact .inl ⟨v, rfl, hreplaced.swapped hcleared.1⟩
      | error e => exact .inr ⟨e, v, rfl, hended.1⟩

/-- A world with a script. -/
def shelf : World where
  disk := ⟨[], [(["o.ps1"], .file [1])]⟩
  home := "/"
  moment := ⟨0⟩
  process := 1
  input := .octets []
  output := ⟨.strict, false, []⟩
  messages := ⟨.strict, false, []⟩
  log := Log.initial

/-- A block that writes the temporary file, takes it away and is interrupted. -/
def scribble (temporary : Text) : Run Unit := do
  onDisk temporary none fun d => d.write temporary [2]
  onDisk temporary none fun d => d.remove temporary
  throw .interrupt

theorem atomically_all_or_nothing_interrupted :
    Confined scribble ∧ ∃ e v,
      (atomically (.ofText "o.ps1") ".part" none true scribble).after shelf = (.error e, v) ∧
        Disk.Paved (.ofText ".") shelf.disk v.disk := by
  have hconfined : Confined scribble :=
    (confined_write [2]).andThen (confined_remove.andThen (confined_throw .interrupt))
  have hstops : ((atomically (.ofText "o.ps1") ".part" none true scribble).after
      shelf).1.isOk = false := by decide +kernel
  refine ⟨hconfined, ?_⟩
  obtain ⟨v, -, -, -, -, -, hafter, -⟩ | hends :=
    (atomically_all_or_nothing (.ofText "o.ps1") shelf).1 ".part" none _ hconfined
  · rw [hafter] at hstops
    cases hstops
  · exact hends

end Run

end HiveScript
