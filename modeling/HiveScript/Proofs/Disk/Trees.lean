import HiveScript.Proofs.Disk.Places
import HiveScript.Proofs.Run.Keeping
import Mathlib.Data.List.Induction

/-!
# Trees of files

What is on a disk lies in directories. Then a path that leads nowhere, for want of a directory on
the way, spells a place at which nothing is, unless it goes up from what is not there.

* `Disk.IsTree`, `Disk.Lacks`; `settled_isTree`; `Grows.lacks`: where nothing is but can be.
* `Disk.Climbs`: paths that go up from where no directory is.
* **`find?_placeOf_eq_none`**: what it means that nothing is found at a written path.
* `find?_placeOf_child`: a directory on the way to a path is not where nothing is.
-/

namespace HiveScript

/-- What is on the disk lies in directories. -/
def Disk.IsTree (d : Disk) : Prop :=
  ∀ p n, d.find? (p ++ [n]) ≠ none → d.find? p = some .directory

/-- Nothing is found at a written path. -/
def Disk.Lacks (d : Disk) (path : Text) : Prop :=
  d.stat path = .error .noEntry ∨ d.stat path = .error .notDirectory

namespace Disk

variable {d d' : Disk} {path : Text}

theorem walk_eq_error {p : Place} {ns : List Text} {e : FileProblem} (h : d.walk p ns = .error e) :
    e = .noEntry ∨ e = .notDirectory ∨ e = .nameTooLong := by
  induction ns generalizing p with
  | nil => cases h
  | cons n ns ih =>
    rw [walk] at h
    split at h
    · exact .inl (Except.error.inj h).symm
    · exact .inr (.inl (Except.error.inj h).symm)
    · split_ifs at h
      · exact ih h
      · exact ih h
      · exact .inr (.inr (Except.error.inj h).symm)
      · exact ih h

/-- If nothing is there, but something can be, then nothing is found. -/
theorem Grows.lacks (h : d.Grows d') {q : Place} (hl : d'.locate path = .ok q)
    (hfresh : ∀ n, d.stat path ≠ .ok n) : d.Lacks path := by
  cases hd : d.stat path with
  | ok n => exact absurd hd (hfresh n)
  | error e =>
    rw [Lacks, hd]
    rcases stat_eq_error_iff.mp hd with he | ⟨-, rfl⟩
    · rw [Disk.locate] at he hl
      rw [h.here] at hl
      split_ifs at he hl
      all_goals
        rcases walk_eq_error he with rfl | rfl | rfl
        · exact .inl rfl
        · exact .inr rfl
        · -- A name that is too long does not become shorter.
          cases (h.walk_nameTooLong he).symm.trans hl
    · exact .inl rfl

end Disk

/-! ## Ways up -/

namespace Disk

/-- Names that lead from a place up from where no directory is. -/
def ClimbsFrom (d : Disk) (p : Place) (ns : List Text) : Prop :=
  ∃ ms, ms ++ [[dot, dot]] <+: ns ∧ d.find? (ms.foldl Place.enter p) ≠ some .directory

/-- A path that goes up from where no directory is. -/
def Climbs (d : Disk) (path : Path) : Prop := d.ClimbsFrom (d.start path) path.names

variable {d d' : Disk} {p : Place}

theorem not_climbsFrom_drop (ms : List Text) {ns : List Text} (h : ¬ d.ClimbsFrom p (ms ++ ns)) :
    ¬ d.ClimbsFrom (ms.foldl Place.enter p) ns := by
  rintro ⟨ls, hls, hne⟩
  refine h ⟨ms ++ ls, ?_, ?_⟩
  · rw [List.append_assoc]
    exact (List.prefix_append_right_inj ms).mpr hls
  · rwa [List.foldl_append]

theorem not_climbsFrom_tail {n : Text} {ns : List Text} (h : ¬ d.ClimbsFrom p (n :: ns)) :
    ¬ d.ClimbsFrom (p.enter n) ns := not_climbsFrom_drop [n] h

theorem Grows.climbs (h : d.Grows d') {path : Path} (hc : d'.Climbs path) : d.Climbs path := by
  obtain ⟨ms, hms, hne⟩ := hc
  rw [start, h.here, ← start] at hne
  exact ⟨ms, hms, fun hd => hne (h.directory _ hd)⟩

/-- A path without two dots does not go up. -/
theorem not_climbs {path : Path} (h : [dot, dot] ∉ path.names) : ¬ d.Climbs path :=
  fun ⟨_, hms, _⟩ => h (hms.subset (List.mem_append_right _ List.mem_cons_self))

/-- A name at the end that does not lead up makes no difference. -/
theorem climbs_child {directory : Path} {n : Text} (hn : n ≠ [dot, dot]) :
    d.Climbs (directory.child n) ↔ d.Climbs directory := by
  refine exists_congr fun ms => and_congr_left fun _ => ?_
  constructor
  · intro h
    rcases List.prefix_concat_iff.mp h with h | h
    · exact absurd (List.singleton_inj.mp (List.append_inj' h rfl).2).symm hn
    · exact h
  · exact fun h => h.trans (List.prefix_append _ _)

end Disk

/-- It is enough to look at each node. -/
theorem Disk.isTree_of_nodes {d : Disk}
    (h : ∀ e ∈ d.nodes, d.find? e.1.dropLast = some .directory) : d.IsTree := by
  intro p n hn
  rw [Disk.find?, if_neg (List.append_ne_nil_of_right_ne_nil _ (List.cons_ne_nil n [])), ne_eq,
    Option.map_eq_none_iff, ← ne_eq, Option.ne_none_iff_exists'] at hn
  obtain ⟨e, he⟩ := hn
  have hplace : e.1 = p ++ [n] := by simpa using List.find?_some he
  have hdirectory := h e (List.mem_of_find?_eq_some he)
  rwa [hplace, List.dropLast_concat] at hdirectory

namespace Disk.IsTree

variable {d : Disk} {p : Place}

theorem find?_append_eq_none (h : d.IsTree) (hp : d.find? p ≠ some .directory) {ns : List Text}
    (hns : ns ≠ []) : d.find? (p ++ ns) = none := by
  induction ns using List.reverseRecOn with
  | nil => exact absurd rfl hns
  | append_singleton ms n ih =>
    by_contra hn
    rw [← List.append_assoc] at hn
    have hdirectory := h (p ++ ms) n hn
    by_cases hms : ms = []
    · rw [hms, List.append_nil] at hdirectory
      exact hp hdirectory
    · rw [ih hms] at hdirectory
      exact absurd hdirectory nofun

theorem append (h : d.IsTree) (p : Place) (more : Bytes) : (d.append p more).IsTree := by
  have halters := Disk.alters_append (d := d) p more
  intro q n hn
  refine halters.directory q (h q n ?_)
  by_cases hq : q ++ [n] = p
  · intro hnone
    rw [hq] at hn hnone
    exact hn (by rw [Disk.append_of_find?_eq_none hnone, hnone])
  · rwa [← halters.other (q ++ [n]) (by simpa using hq)]

/-- From where no directory is the way does not go up any more. -/
theorem dots_notMem (h : d.IsTree) (hp : d.find? p ≠ some .directory) {ns : List Text}
    (hc : ¬ d.ClimbsFrom p ns) : [dot, dot] ∉ ns := by
  induction ns generalizing p with
  | nil => exact List.not_mem_nil
  | cons n ns ih =>
    have hn : n ≠ [dot, dot] := by
      rintro rfl
      exact hc ⟨[], List.prefix_append [[dot, dot]] ns, hp⟩
    have htail := Disk.not_climbsFrom_tail hc
    rw [Place.enter, if_neg hn] at htail
    have hnone := h.find?_append_eq_none hp (List.cons_ne_nil n [])
    rw [List.mem_cons, not_or]
    exact ⟨Ne.symm hn, ih (by rw [hnone]; exact (Option.some_ne_none _).symm) htail⟩

/-- A walk that fails for want of a directory, before a last name, spells a place that is free. -/
theorem find?_of_walk_eq_error (h : d.IsTree) {ns : List Text} {m : Text}
    (hm : ns.getLast? = some m) (hname : Path.isName m = true)
    (hc : ¬ d.ClimbsFrom p (ns.filter Path.isName)) {e : FileProblem}
    (he : e = .noEntry ∨ e = .notDirectory) (hw : d.walk p ns = .error e) :
    d.find? ((ns.filter Path.isName).foldl Place.enter p) = none := by
  have hshort : e ≠ .nameTooLong := by
    rcases he with rfl | rfl <;> decide
  induction ns generalizing p with
  | nil => cases hm
  | cons n ns ih =>
    by_cases hp : d.find? p = some .directory
    · rw [Disk.walk, hp] at hw
      dsimp only at hw
      cases ns with
      | nil =>
        -- The last name is a name, so that the walk has come to its end.
        obtain rfl : n = m := Option.some.inj hm
        rw [if_neg (by simp [hname])] at hw
        split_ifs at hw
        · cases hw
        · exact absurd (Except.error.inj hw).symm hshort
        · cases hw
      | cons n' ns =>
        rw [List.getLast?_cons_cons] at hm
        split_ifs at hw with hn hd hlong
        · rw [List.filter_cons_of_neg (by simpa using hn)] at hc ⊢
          exact ih hm hc hw
        · rw [List.filter_cons_of_pos (by simpa using hn)] at hc ⊢
          have htail := Disk.not_climbsFrom_tail hc
          rw [Place.enter, if_pos hd] at htail
          rw [List.foldl_cons, Place.enter, if_pos hd]
          exact ih hm htail hw
        · exact absurd (Except.error.inj hw).symm hshort
        · rw [List.filter_cons_of_pos (by simpa using hn)] at hc ⊢
          have htail := Disk.not_climbsFrom_tail hc
          rw [Place.enter, if_neg hd] at htail
          rw [List.foldl_cons, Place.enter, if_neg hd]
          exact ih hm htail hw
    · rw [Disk.foldl_enter (h.dots_notMem hp hc)]
      exact h.find?_append_eq_none hp
        (List.ne_nil_of_mem (List.mem_filter.mpr ⟨List.mem_of_getLast? hm, hname⟩))

/-- **A path at which nothing is found spells a place at which nothing is**, unless it goes up from
where no directory is. -/
theorem find?_placeOf_eq_none (h : d.IsTree) {path : Path} (hpath : path.WellFormed)
    (hne : path.names ≠ []) (hc : ¬ d.Climbs path) (hstat : d.Lacks path.text) :
    d.find? (d.placeOf path) = none := by
  cases hl : d.locate path.text with
  | ok q =>
    rw [← Disk.locate_text_eq_ok hpath hl]
    cases hq : d.find? q with
    | none => rfl
    | some n =>
      rw [Disk.Lacks, Disk.stat_of_locate_eq_ok hl hq] at hstat
      rcases hstat with hstat | hstat <;> cases hstat
  | error e =>
    have he : e = .noEntry ∨ e = .notDirectory := by
      rw [Disk.Lacks, Disk.stat, hl] at hstat
      exact hstat.imp Except.error.inj Except.error.inj
    obtain ⟨k, hfields⟩ := Path.exists_fields_text hpath hne
    have hread := Path.ofText_text hpath
    have hstart := Disk.start_ofText d path.text
    rw [hread] at hstart
    have hnames : (path.text.fields (· = slash)).filter Path.isName = path.names :=
      congrArg Path.names hread
    have hlast : (path.text.fields (· = slash)).getLast? = some (path.names.getLast hne) := by
      rw [hfields, List.getLast?_append_of_ne_nil _ hne, List.getLast?_eq_some_getLast hne]
    rw [Disk.locate] at hl
    by_cases hempty : path.text.isEmpty = true
    · rw [List.isEmpty_iff.mp hempty] at hread
      exact absurd (congrArg Path.names hread).symm hne
    by_cases hlong : Disk.maxPath < Disk.octetCount path.text
    · rw [if_neg hempty, if_pos hlong] at hl
      obtain rfl : _ = e := Except.error.inj hl
      rcases he with he | he <;> cases he
    rw [if_neg hempty, if_neg hlong] at hl
    rw [Disk.Climbs, hstart, ← hnames] at hc
    rw [Disk.placeOf, hstart, ← hnames]
    exact h.find?_of_walk_eq_error hlast (hpath.names _ (List.getLast_mem hne)).1 hc he hl

/-- A directory on the way to a path is not at its place, unless the way comes back to it. -/
theorem find?_placeOf_child (h : d.IsTree) {directory p : Path} {n : Text}
    (hroot : p.root = directory.root) (hnames : p.names <+: directory.names)
    (hc : ¬ d.Climbs (directory.child n)) (hp : d.placeOf p = d.placeOf (directory.child n)) :
    d.find? (d.placeOf (directory.child n)) = some .directory := by
  obtain ⟨rest, hrest⟩ := hnames
  have hstart : d.start p = d.start (directory.child n) := by
    rw [Disk.start, Disk.start, hroot]
    rfl
  have hchild : (directory.child n).names = p.names ++ (rest ++ [n]) := by
    rw [Path.child, ← hrest, List.append_assoc]
  have hplace : d.placeOf (directory.child n) = (rest ++ [n]).foldl Place.enter (d.placeOf p) := by
    rw [Disk.placeOf, hchild, List.foldl_append, ← hstart]
    rfl
  rw [Disk.Climbs, hchild, ← hstart] at hc
  by_contra hdirectory
  have hdots := h.dots_notMem (p := d.placeOf p) (by rwa [hp]) (Disk.not_climbsFrom_drop _ hc)
  rw [hplace, Disk.foldl_enter hdots] at hp
  exact List.append_ne_nil_of_right_ne_nil _ (List.cons_ne_nil n [])
    (List.self_eq_append_right.mp hp)

end Disk.IsTree

namespace Run

/-- Records and streams leave a tree a tree, with the directories that were there. -/
theorem settled_isTree (d : Disk) : Settled fun w => w.disk.IsTree ∧ d.Grows w.disk where
  emit r _ h := World.emit_induction (P := fun w => w.disk.IsTree ∧ d.Grows w.disk)
    (fun _ _ _ _ _ h => h) (fun _ place more _ h =>
      ⟨h.1.append place more, h.2.trans (Disk.alters_append place more).toGrows⟩) r h
  input _ _ h := h
  output _ _ h := h

end Run

end HiveScript
