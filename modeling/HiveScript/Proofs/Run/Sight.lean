import HiveScript.Proofs.Run.Atomic
import HiveScript.Proofs.Run.Parallel

/-!
# What a writing looks at

The writing of a file looks at the disk and at nothing else of the world. So a file that can be
written in one world can be written in each world with the same disk.

* `Run.SeesDisk`: runs that do the same to the same disk; `SeesDisk.bind`, `SeesDisk.tryCatch`.
* **`Run.seesDisk_writeAtomically`**.
* `Run.Writable`, `Writable.exists_after`: files that can be written on a disk;
  `Run.writtenDisk`: what that leaves.
-/

namespace HiveScript.Run

variable {α β : Type}

/-- In worlds with the same disk a run ends in the same and leaves the same disk. -/
def SeesDisk (x : Run α) : Prop :=
  ∀ w u : World, w.disk = u.disk →
    (x.after w).1 = (x.after u).1 ∧ (x.after w).2.disk = (x.after u).2.disk

theorem seesDisk_iff_parallel {x : Run α} :
    SeesDisk x ↔ Parallel (fun w u => w.disk = u.disk) x x fun _ => True :=
  forall₃_congr fun _ _ _ => by simp

namespace SeesDisk

variable {x : Run α}

theorem pure {a : α} : SeesDisk (pure a : Run α) := fun _ _ h => ⟨rfl, h⟩

theorem throw {e : Stop} : SeesDisk (throw e : Run α) := fun _ _ h => ⟨rfl, h⟩

theorem ofExcept {r : Except Failure α} : SeesDisk (ofExcept r) :=
  seesDisk_iff_parallel.mpr (.ofExcept fun _ _ => trivial)

/-- A run that looks at the world, but only at its disk. -/
theorem get {f : World → Run α} (hf : ∀ w u : World, w.disk = u.disk → f w = f u)
    (h : ∀ w, SeesDisk (f w)) : SeesDisk (get >>= f) := by
  intro w u hdisk
  rw [after_get_bind, after_get_bind, ← hf w u hdisk]
  exact h w w u hdisk

theorem bind {f : α → Run β} (hx : SeesDisk x) (hf : ∀ a, SeesDisk (f a)) :
    SeesDisk (x >>= f) :=
  seesDisk_iff_parallel.mpr
    ((seesDisk_iff_parallel.mp hx).bind fun a _ => seesDisk_iff_parallel.mp (hf a))

theorem tryCatch {f : Stop → Run α} (hx : SeesDisk x) (hf : ∀ e, SeesDisk (f e)) :
    SeesDisk (tryCatch x f) :=
  seesDisk_iff_parallel.mpr
    ((seesDisk_iff_parallel.mp hx).tryCatch fun e => seesDisk_iff_parallel.mp (hf e))

end SeesDisk

/-! ## Single operations -/

theorem seesDisk_onDisk (path : Text) (goal : Option Text)
    (op : Disk → Except FileProblem Disk) : SeesDisk (onDisk path goal op) := by
  intro w u h
  rw [after_onDisk, after_onDisk, h]
  cases checkPath path with
  | error f => exact ⟨rfl, h⟩
  | ok _ =>
    cases op u.disk with
    | ok d => exact ⟨rfl, rfl⟩
    | error problem => exact ⟨rfl, h⟩

theorem seesDisk_find? (path : Text) : SeesDisk (find? path) := by
  rw [find?]
  split
  · exact .pure
  · refine .get (fun w u h => by rw [h]) fun w => ?_
    split
    · exact .pure
    · exact .pure
    · exact .pure
    · exact .throw

theorem seesDisk_makeLast (path : Path) : SeesDisk (makeLast path) := by
  refine (seesDisk_onDisk _ _ _).tryCatch fun e => ?_
  split
  · exact .throw
  · refine (seesDisk_find? _).bind fun n => ?_
    split_ifs
    · exact .pure
    · exact .throw
  · exact .throw

theorem seesDisk_makeDirectoriesFor (fuel : Nat) (path : Path) :
    SeesDisk (makeDirectoriesFor fuel path) := by
  induction fuel generalizing path with
  | zero => exact seesDisk_makeLast path
  | succ fuel ih =>
    refine (seesDisk_makeLast path).tryCatch fun e => ?_
    split
    · split_ifs
      · exact .throw
      · exact (ih path.parent).bind fun _ => seesDisk_makeLast path
    · exact .throw

theorem seesDisk_createTemporaryFrom (directory name last : Text) (fuel n : Nat) :
    SeesDisk (createTemporaryFrom directory name last fuel n) := by
  have hcreate : ∀ path, SeesDisk (do onDisk path none fun d => d.create path; return path) :=
    fun path => (seesDisk_onDisk path none _).bind fun _ => .pure
  induction fuel generalizing n with
  | zero => exact hcreate _
  | succ fuel ih =>
    refine (hcreate _).tryCatch fun e => ?_
    split
    · exact ih (n + 1)
    · exact .throw

theorem seesDisk_removeIfThere (path : Text) : SeesDisk (removeIfThere path) := by
  refine (seesDisk_onDisk _ _ _).tryCatch fun e => ?_
  split
  · exact .pure
  · exact .throw

/-- The log is changed too, but what is done to it does not come back. -/
theorem seesDisk_replace (source target : Text) : SeesDisk (replace source target) := by
  refine SeesDisk.ofExcept.bind fun _ => (seesDisk_onDisk _ _ _).bind fun _ => ?_
  intro w u h
  rw [after_get_bind, after_get_bind, h]
  cases u.disk.locate target with
  | ok place => exact ⟨rfl, rfl⟩
  | error e => exact ⟨rfl, h⟩

/-! ## Writing in one step -/

theorem seesDisk_atomically {target : Path} {last : Text} {directory : Option Path} {clean : Bool}
    {body : Text → Run Unit} (hbody : ∀ temporary, SeesDisk (body temporary)) :
    SeesDisk (atomically target last directory clean body) := by
  refine (seesDisk_makeDirectoriesFor _ _).bind fun _ => SeesDisk.bind ?_ fun temporary => ?_
  · exact .get (fun w u h => by rw [h]) fun w => seesDisk_createTemporaryFrom _ _ _ _ _
  · refine ((hbody temporary).bind fun _ => seesDisk_replace _ _).tryCatch fun e => ?_
    split_ifs
    · exact (seesDisk_removeIfThere temporary).bind fun _ => .throw
    · exact .throw

/-- **The writing of a file looks at the disk only.** -/
theorem seesDisk_writeAtomically (target : Path) (content : Bytes) :
    SeesDisk (writeAtomically target content) :=
  seesDisk_atomically fun _ => seesDisk_onDisk _ _ _

/-! ## Files that can be written -/

/-- A file with some octets can be written on a disk. -/
def Writable (d : Disk) (target : Path) (content : Bytes) : Prop :=
  ∃ w v : World, w.disk = d ∧ (writeAtomically target content).after w = (.ok ⟨⟩, v)

/-- What else there is in the world makes no difference. -/
theorem Writable.exists_after {w : World} {target : Path} {content : Bytes}
    (h : Writable w.disk target content) :
    ∃ v, (writeAtomically target content).after w = (.ok ⟨⟩, v) := by
  obtain ⟨u, v, hdisk, hu⟩ := h
  obtain ⟨hends, -⟩ := seesDisk_writeAtomically target content u w hdisk
  rw [hu] at hends
  exact ⟨((writeAtomically target content).after w).2, Prod.ext hends.symm rfl⟩

theorem Writable.of_isOk {w : World} {target : Path} {content : Bytes}
    (h : ((writeAtomically target content).after w).1.isOk = true) :
    Writable w.disk target content := by
  cases hafter : (writeAtomically target content).after w with
  | mk r v =>
    rw [hafter] at h
    cases r with
    | ok _ => exact ⟨w, v, rfl, hafter⟩
    | error e => cases h

/-- The disk that the writing of a file leaves. -/
def writtenDisk (w : World) (target : Path) (content : Bytes) : Disk :=
  ((writeAtomically target content).after w).2.disk

theorem writtenDisk_congr {w u : World} (h : w.disk = u.disk) (target : Path) (content : Bytes) :
    writtenDisk w target content = writtenDisk u target content :=
  (seesDisk_writeAtomically target content w u h).2

namespace Writable

variable {w : World} {target : Path} {content : Bytes}

theorem exists_placed (h : Writable w.disk target content) :
    ∃ v, (writeAtomically target content).after w = (.ok ⟨⟩, v) ∧
      v.disk = writtenDisk w target content ∧ w.Placed target.parent target content v := by
  obtain ⟨v, hv⟩ := h.exists_after
  exact ⟨v, hv, by rw [writtenDisk, hv], (triple_writeAtomically_placed target content).ok rfl hv⟩

theorem read_writtenDisk (h : Writable w.disk target content) :
    (writtenDisk w target content).read target.text = .ok content := by
  obtain ⟨v, -, hdisk, u, q, -, hreplaced⟩ := h.exists_placed
  rw [← hdisk]
  exact hreplaced.read

/-- Where a file can be written and nothing is, nothing is found. -/
theorem lacks (h : Writable w.disk target content)
    (hfresh : ∀ n, w.disk.stat target.text ≠ .ok n) : w.disk.Lacks target.text := by
  obtain ⟨v, -, -, u, q, ⟨hpaved, -⟩, hreplaced⟩ := h.exists_placed
  exact hpaved.grows.lacks hreplaced.locate hfresh

end Writable

end HiveScript.Run
