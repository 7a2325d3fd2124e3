import HiveScript.Proofs.Disk.Trees

/-!
# Disks under files

What a disk comes to when files are written on it one after the other, with the directories that
they need.

* `Disk.OnWay`, `Disk.Paved`: further directories on the way to a path.
* `Disk.Alike`: disks on which the same things are.
* `Disk.overlay`: what is at a place under files that are written; the last one there counts.
* `Disk.IsSound`: disks on which paths that lead nowhere spell places where nothing is;
  **`find?_placeOf_of_lacks`**.
-/

namespace HiveScript.Disk

variable {d d' d'' : Disk} {path : Path} {q : Place}

/-! ## Directories on the way -/

/-- The place of a path, or of one above it. -/
def OnWay (d : Disk) (path : Path) (q : Place) : Prop :=
  ∃ p : Path, p.root = path.root ∧ p.names <+: path.names ∧ d.placeOf (.ofText p.text) = q

theorem Grows.onWay_iff (h : d.Grows d') : d'.OnWay path q ↔ d.OnWay path q := by
  simp only [OnWay, h.placeOf]

/-- A disk with further directories on the way to a path. -/
structure Paved (path : Path) (d d' : Disk) : Prop where
  here : d'.here = d.here
  find? : ∀ q, d'.find? q = d.find? q ∨
    d.find? q = none ∧ d'.find? q = some .directory ∧ d.OnWay path q

namespace Paved

theorem of_same (here : d'.here = d.here) (find? : ∀ q, d'.find? q = d.find? q) :
    Paved path d d' := ⟨here, fun q => .inl (find? q)⟩

theorem refl (path : Path) (d : Disk) : Paved path d d := of_same rfl fun _ => rfl

theorem grows (h : Paved path d d') : d.Grows d' where
  here := h.here
  directory q hq := by
    rcases h.find? q with he | ⟨hnone, -, -⟩
    · exact he.trans hq
    · exact absurd (hq.symm.trans hnone) nofun

theorem trans (h : Paved path d d') (h' : Paved path d' d'') : Paved path d d'' where
  here := h'.here.trans h.here
  find? q := by
    rcases h'.find? q with he' | ⟨hnone, hdirectory, hway⟩
    · rcases h.find? q with he | ⟨hnone, hdirectory, hway⟩
      · exact .inl (he'.trans he)
      · exact .inr ⟨hnone, he'.trans hdirectory, hway⟩
    · rcases h.find? q with he | ⟨-, hdirectory', -⟩
      · exact .inr ⟨he ▸ hnone, hdirectory, h.grows.onWay_iff.mp hway⟩
      · exact absurd (hnone.symm.trans hdirectory') nofun

/-- A directory that is made on the way to a path. -/
theorem makeDirectory {p : Path} (hroot : p.root = path.root) (hnames : p.names <+: path.names)
    (h : d.makeDirectory p.text = .ok d') : Paved path d d' := by
  obtain ⟨r, hl, hr, rfl⟩ := makeDirectory_eq_ok h
  refine ⟨rfl, fun q => ?_⟩
  by_cases hq : q = r
  · subst hq
    have hne : q ≠ [] := ne_nil_of_find?_ne (by rw [hr]; exact nofun)
    exact .inr ⟨hr, find?_put_self hne, p, hroot, hnames, (locate_eq_ok hl).symm⟩
  · exact .inl (find?_put_of_ne hq)

end Paved

/-! ## Disks on which the same things are -/

/-- There are files where there are files, and directories where there are directories. -/
structure Alike (d d' : Disk) : Prop where
  here : d'.here = d.here
  nothing : ∀ q, d'.find? q = none ↔ d.find? q = none
  directory : ∀ q, d'.find? q = some .directory ↔ d.find? q = some .directory

namespace Alike

theorem walk (h : d.Alike d') (p : Place) (ns : List Text) : d'.walk p ns = d.walk p ns := by
  induction ns generalizing p with
  | nil => rfl
  | cons n ns ih =>
    have hnone := h.nothing p
    have hdirectory := h.directory p
    rw [Disk.walk, Disk.walk, ih, ih, ih]
    cases hp : d.find? p with
    | none => rw [hnone.mpr hp]
    | some m =>
      cases m with
      | directory => rw [hdirectory.mpr hp]
      | file content =>
        rw [hp] at hnone hdirectory
        cases hp' : d'.find? p with
        | none => cases hnone.mp hp'
        | some m' =>
          cases m' with
          | directory => cases hdirectory.mp hp'
          | file content' => rfl

theorem locate (h : d.Alike d') (path : Text) : d'.locate path = d.locate path := by
  rw [Disk.locate, Disk.locate, h.here, h.walk]

/-- What is found at a path on one disk is found on the other one. -/
theorem exists_stat_eq_ok_iff (h : d.Alike d') {path : Text} :
    (∃ n, d'.stat path = .ok n) ↔ ∃ n, d.stat path = .ok n := by
  simp only [Disk.stat_eq_ok_iff, h.locate]
  have hsome : ∀ q, (∃ n, d'.find? q = some n) ↔ ∃ n, d.find? q = some n := fun q => by
    rw [← Option.ne_none_iff_exists', ← Option.ne_none_iff_exists', not_iff_not, h.nothing]
  constructor
  · rintro ⟨n, q, hl, hq⟩
    obtain ⟨m, hm⟩ := (hsome q).mp ⟨n, hq⟩
    exact ⟨m, q, hl, hm⟩
  · rintro ⟨n, q, hl, hq⟩
    obtain ⟨m, hm⟩ := (hsome q).mpr ⟨n, hq⟩
    exact ⟨m, q, hl, hm⟩

/-- Looking at a path is refused on one disk as on the other one. -/
theorem stat_eq_error_iff (h : d.Alike d') {path : Text} {e : FileProblem} :
    d'.stat path = .error e ↔ d.stat path = .error e := by
  simp only [Disk.stat_eq_error_iff, h.locate, h.nothing]

end Alike

/-! ## Files that are written -/

/-- What is at a place where there was `x`, once files are written one after the other. -/
def overlay (d : Disk) (q : Place) (x : Option Node) (files : List (Path × Bytes)) : Option Node :=
  files.foldl
    (fun x file => if d.placeOf (.ofText file.1.text) = q then some (.file file.2) else x) x

section

variable {x y : Option Node} {files more : List (Path × Bytes)}

theorem overlay_append (d : Disk) (q : Place) (x : Option Node) (files more : List (Path × Bytes)) :
    d.overlay q x (files ++ more) = d.overlay q (d.overlay q x files) more :=
  List.foldl_append

theorem overlay_append_singleton (d : Disk) (q : Place) (x : Option Node)
    (files : List (Path × Bytes)) (file : Path × Bytes) :
    d.overlay q x (files ++ [file]) =
      if d.placeOf (.ofText file.1.text) = q then some (.file file.2) else d.overlay q x files :=
  overlay_append d q x files [file]

theorem Grows.overlay (h : d.Grows d') (q : Place) (x : Option Node) (files : List (Path × Bytes)) :
    d'.overlay q x files = d.overlay q x files := by
  simp only [Disk.overlay, h.placeOf]

/-- Files that are written elsewhere leave what is there. -/
theorem overlay_of_forall_ne (h : ∀ file ∈ files, d.placeOf (.ofText file.1.text) ≠ q) :
    d.overlay q x files = x := by
  induction files generalizing x with
  | nil => rfl
  | cons file files ih =>
    obtain ⟨hfile, hfiles⟩ := List.forall_mem_cons.mp h
    rw [Disk.overlay, List.foldl_cons, if_neg hfile]
    exact ih hfiles

/-- Only the last file that is written there counts. -/
theorem overlay_congr (h : ∃ file ∈ files, d.placeOf (.ofText file.1.text) = q) :
    d.overlay q x files = d.overlay q y files := by
  induction files generalizing x y with
  | nil => exact absurd h fun ⟨_, hmem, _⟩ => absurd hmem List.not_mem_nil
  | cons file files ih =>
    rw [Disk.overlay, Disk.overlay, List.foldl_cons, List.foldl_cons]
    by_cases hfile : d.placeOf (.ofText file.1.text) = q
    · rw [if_pos hfile, if_pos hfile]
    · rw [if_neg hfile, if_neg hfile]
      obtain ⟨file', hmem, hfile'⟩ := h
      rcases List.mem_cons.mp hmem with rfl | hmem
      · exact absurd hfile' hfile
      · exact ih ⟨file', hmem, hfile'⟩

/-- Once something is there, something stays there. -/
theorem overlay_ne_none (h : x ≠ none) : d.overlay q x files ≠ none := by
  induction files generalizing x with
  | nil => exact h
  | cons file files ih =>
    rw [Disk.overlay, List.foldl_cons]
    refine ih ?_
    split_ifs
    · exact nofun
    · exact h

/-- What is there is a file that was written, or what was there before. -/
theorem overlay_cases (d : Disk) (q : Place) (x : Option Node) (files : List (Path × Bytes)) :
    d.overlay q x files = x ∨ ∃ file ∈ files, d.placeOf (.ofText file.1.text) = q ∧
      d.overlay q x files = some (.file file.2) := by
  induction files using List.reverseRecOn with
  | nil => exact .inl rfl
  | append_singleton files file ih =>
    rw [overlay_append_singleton]
    split_ifs with hfile
    · exact .inr ⟨file, List.mem_append_right _ List.mem_cons_self, hfile, rfl⟩
    · refine ih.imp_right ?_
      rintro ⟨file', hmem, h⟩
      exact ⟨file', List.mem_append_left _ hmem, h⟩

end

/-! ## Paths at which nothing is found -/

/-- What is on the disk lies in directories, and so does what is named from where the tool runs. -/
structure IsSound (d : Disk) : Prop where
  isTree : d.IsTree
  here : d.find? d.here = some .directory

theorem Alike.lacks_iff (h : d.Alike d') {path : Text} : d'.Lacks path ↔ d.Lacks path := by
  rw [Lacks, Lacks, h.stat_eq_error_iff, h.stat_eq_error_iff]

/-- A path without names leads to where the tool runs, or to the root. -/
theorem IsSound.stat_of_names_eq_nil (h : d.IsSound) (hpath : path.WellFormed)
    (hnames : path.names = []) : d.stat path.text = .ok .directory := by
  have hroot : d.find? [] = some .directory := if_pos rfl
  obtain ⟨root, names⟩ := path
  obtain rfl : names = [] := hnames
  rcases hpath.root with hr | hr | hr
  · obtain rfl : root = _ := hr
    refine stat_of_locate_eq_ok (p := d.here) ?_ h.here
    change d.walk d.here [[dot]] = _
    rw [walk, h.here]
    rfl
  · obtain rfl : root = _ := hr
    refine stat_of_locate_eq_ok (p := []) ?_ hroot
    change d.walk [] [[], []] = _
    rw [walk, hroot]
    rfl
  · obtain rfl : root = _ := hr
    refine stat_of_locate_eq_ok (p := []) ?_ hroot
    change d.walk [] [[], [], []] = _
    rw [walk, hroot]
    rfl

/-- **A path at which nothing is found spells a place at which nothing is**, unless it goes up from
where no directory is. -/
theorem IsSound.find?_placeOf_of_lacks (h : d.IsSound) (hpath : path.WellFormed)
    (hc : ¬ d.Climbs path) (hlacks : d.Lacks path.text) : d.find? (d.placeOf path) = none := by
  by_cases hnames : path.names = []
  · rw [Lacks, h.stat_of_names_eq_nil hpath hnames] at hlacks
    rcases hlacks with hlacks | hlacks <;> cases hlacks
  · exact h.isTree.find?_placeOf_eq_none hpath hnames hc hlacks

end HiveScript.Disk
