import HiveScript.Configuration.Files
import HiveScript.Proofs.Run.Agreement

/-!
# Directories of configurations

A directory among the arguments stands for the files of configurations in it, in ascending order.

* `World.Means`, `World.NamesDirectory`: the paths of arguments.
* `Disk.HasConfiguration`, `Disk.Lists`: the files that a directory stands for.
* `Disk.Reaches`, `Disk.IsOpen`, `World.IsOpen`: directories in which all can be looked at.
* `Disk.Matches`: disks that are the same for an argument; **`Matches.shares`**,
  `Matches.shares_child`.
* `World.IsSource`: the files that arguments lead to.
* **`Run.after_configurationsIn`**: what is found in a directory.
-/

namespace HiveScript

open HiveScript.Configuration

/-- The path that an argument names. -/
def World.Means (w : World) (v : Value) (path : Path) : Prop :=
  v.toPath >>= Path.expandHome w.home = .ok path

theorem World.Means.wellFormed {w : World} {v : Value} {path : Path} (h : w.Means v path) :
    path.WellFormed := by
  obtain ⟨p, hp, h⟩ := exists_of_bind_eq_ok h
  rw [Value.toPath.eq_def] at hp
  split at hp
  · obtain rfl := Except.ok.inj hp
    exact (Path.wellFormed_ofText _).expandHome h
  · cases hp

namespace Disk

variable {d d' : Disk} {path : Path} {n : Text}

/-! ## Files of configurations -/

/-- In a directory there is the file of a configuration with some name. -/
def HasConfiguration (d : Disk) (path : Path) (n : Text) : Prop :=
  (formOf? (path.child n).extension).isSome = true ∧
    ∃ content, d.find? (d.placeOf path ++ [n]) = some (.file content)

instance : Decidable (d.HasConfiguration path n) :=
  match h : d.find? (d.placeOf path ++ [n]) with
  | some (.file content) => decidable_of_iff _ (and_iff_left ⟨content, h⟩).symm
  | none => isFalse fun ⟨_, _, hfile⟩ => nomatch h.symm.trans hfile
  | some .directory => isFalse fun ⟨_, _, hfile⟩ => nomatch h.symm.trans hfile

theorem Alike.hasConfiguration_iff (h : d.Alike d') :
    d'.HasConfiguration path n ↔ d.HasConfiguration path n := by
  rw [HasConfiguration, HasConfiguration, h.placeOf, h.exists_file_iff]

/-- The names of the files of configurations in a directory, in ascending order. -/
structure Lists (d : Disk) (path : Path) (names : List Text) : Prop where
  nodup : names.Nodup
  ascending : names.Pairwise fun a b => a.le b = true
  mem_iff : ∀ n, n ∈ names ↔ d.HasConfiguration path n

/-- The names that are found, once they are sorted. -/
theorem lists_mergeSort (d : Disk) (path : Path) :
    d.Lists path (((d.namesIn (d.placeOf path)).filter fun n =>
      d.HasConfiguration path n).mergeSort Text.le) := by
  have hperm := List.mergeSort_perm
    ((d.namesIn (d.placeOf path)).filter fun n => d.HasConfiguration path n) Text.le
  refine ⟨?_, List.pairwise_mergeSort Text.le_trans Text.le_total _, fun n => ?_⟩
  · exact hperm.nodup_iff.mpr ((nodup_namesIn _ _).filter _)
  · rw [hperm.mem_iff, List.mem_filter, decide_eq_true_iff, mem_namesIn]
    refine and_iff_right_of_imp ?_
    rintro ⟨-, content, hcontent⟩
    rw [hcontent]
    exact nofun

theorem Lists.unique {names names' : List Text} (h : d.Lists path names)
    (h' : d.Lists path names') : names = names' :=
  Text.eq_of_ascending h.nodup h'.nodup h.ascending h'.ascending fun n =>
    (h.mem_iff n).trans (h'.mem_iff n).symm

/-- It is enough to look at each name in the directory. -/
theorem lists_of_namesIn {names : List Text} (hnodup : names.Nodup)
    (hascending : names.Pairwise fun a b => a.le b = true)
    (hthere : ∀ n ∈ names, d.HasConfiguration path n)
    (hall : ∀ n ∈ d.namesIn (d.placeOf path), d.HasConfiguration path n → n ∈ names) :
    d.Lists path names := by
  refine ⟨hnodup, hascending, fun n => ⟨hthere n, fun hn => hall n (mem_namesIn.mpr ?_) hn⟩⟩
  obtain ⟨-, content, hcontent⟩ := hn
  rw [hcontent]
  exact nofun

theorem Lists.alike (h : d.Alike d') {names : List Text} (hnames : d.Lists path names) :
    d'.Lists path names :=
  ⟨hnames.nodup, hnames.ascending, fun n => (hnames.mem_iff n).trans h.hasConfiguration_iff.symm⟩

/-! ## Names that can be looked at -/

/-- A name is one that files can have, and what it names in a directory can be looked at. -/
structure Reaches (d : Disk) (path : Path) (n : Text) : Prop where
  isName : Path.isName n = true
  isOwn : n ≠ [dot, dot]
  noSlash : slash ∉ n
  isPath : checkPath (path.child n).text = .ok ⟨⟩
  found : ∃ m, d.stat (path.child n).text = .ok m

namespace Reaches

theorem alike (hd : d.Alike d') (h : d.Reaches path n) : d'.Reaches path n :=
  ⟨h.isName, h.isOwn, h.noSlash, h.isPath, hd.exists_stat_eq_ok_iff.mpr h.found⟩

theorem locate (h : d.Reaches path n) (hpath : path.WellFormed) :
    d.locate (path.child n).text = .ok (d.placeOf path ++ [n]) := by
  obtain ⟨m, hm⟩ := h.found
  obtain ⟨q, hl, -⟩ := stat_eq_ok hm
  rw [hl, locate_text_eq_ok (hpath.child h.isName h.noSlash) hl, placeOf_child d path h.isOwn]

end Reaches

/-- What is in a directory can be looked at. -/
def IsOpen (d : Disk) (path : Path) : Prop :=
  ∀ n, d.find? (d.placeOf path ++ [n]) ≠ none → d.Reaches path n

theorem isOpen_of_namesIn {names : List Text} (hnames : d.namesIn (d.placeOf path) = names)
    (h : ∀ n ∈ names, d.Reaches path n) : d.IsOpen path :=
  fun n hn => h n (hnames ▸ mem_namesIn.mpr hn)

theorem IsOpen.alike (hd : d.Alike d') (h : d.IsOpen path) : d'.IsOpen path := by
  intro n hn
  rw [hd.placeOf, ne_eq, hd.nothing] at hn
  exact (h n hn).alike hd

theorem IsOpen.reaches (h : d.IsOpen path) (hn : d.HasConfiguration path n) : d.Reaches path n := by
  obtain ⟨-, content, hcontent⟩ := hn
  exact h n (by rw [hcontent]; exact nofun)

/-! ## Disks that are the same for an argument -/

/-- Disks with the same on the way to a path, and with the same files of configurations in it. -/
structure Matches (path : Path) (d d' : Disk) : Prop where
  here : d'.here = d.here
  way : ∀ q, d.OnWay path q → d'.find? q = d.find? q
  file : ∀ n, (formOf? (path.child n).extension).isSome = true → ∀ content,
    d'.find? (d.placeOf path ++ [n]) = some (.file content) ↔
      d.find? (d.placeOf path ++ [n]) = some (.file content)

namespace Matches

theorem refl (path : Path) (d : Disk) : Matches path d d := ⟨rfl, fun _ _ => rfl, fun _ _ _ => .rfl⟩

theorem placeOf (h : Matches path d d') : d'.placeOf path = d.placeOf path := by
  rw [Disk.placeOf, Disk.placeOf, start, start, h.here]

theorem find?_placeOf (h : Matches path d d') (hpath : path.WellFormed) :
    d'.find? (d.placeOf path) = d.find? (d.placeOf path) :=
  h.way _ ⟨path, rfl, List.prefix_rfl, by rw [Path.ofText_text hpath]⟩

theorem hasConfiguration_iff (h : Matches path d d') :
    d'.HasConfiguration path n ↔ d.HasConfiguration path n := by
  rw [HasConfiguration, HasConfiguration, h.placeOf]
  exact and_congr_right fun hn => exists_congr fun content => h.file n hn content

theorem lists (h : Matches path d d') {names : List Text} (hnames : d.Lists path names) :
    d'.Lists path names :=
  ⟨hnames.nodup, hnames.ascending, fun n => (hnames.mem_iff n).trans h.hasConfiguration_iff.symm⟩

/-- The path leads to the same on both disks. -/
theorem shares (h : Matches path d d') (hpath : path.WellFormed) {S : Place → Prop}
    (hS : ∀ content, d.find? (d.placeOf path) = some (.file content) → S (d.placeOf path)) :
    d.Shares d' S path.text where
  locate := locate_congr hpath h.here h.way
  find? q hl := by
    rw [locate_text_eq_ok hpath hl]
    exact h.find?_placeOf hpath
  isFile q content hl hq := by
    rw [locate_text_eq_ok hpath hl] at hq ⊢
    exact hS content hq

theorem stat (h : Matches path d d') (hpath : path.WellFormed) :
    d'.stat path.text = d.stat path.text := by
  have hshares : d.Shares d' (fun _ => True) path.text := h.shares hpath fun _ _ => trivial
  rw [Disk.stat, Disk.stat, hshares.locate]
  cases hl : d.locate path.text with
  | error problem => rfl
  | ok q =>
    dsimp only [bind, Except.bind]
    rw [hshares.find? q hl]

/-- The path of a file of a configuration leads to it on both disks. -/
theorem shares_child (h : Matches path d d') (hpath : path.WellFormed) {S : Place → Prop}
    (hS : S (d.placeOf path ++ [n])) (hn : d.HasConfiguration path n) (hopen : d.IsOpen path)
    (hopen' : d'.IsOpen path) : d.Shares d' S (path.child n).text := by
  have hl := (hopen.reaches hn).locate hpath
  have hl' := (hopen'.reaches (h.hasConfiguration_iff.mpr hn)).locate hpath
  rw [h.placeOf] at hl'
  obtain ⟨hform, content, hcontent⟩ := hn
  refine ⟨hl'.trans hl.symm, fun q hq => ?_, fun q _ hq _ => ?_⟩
  · obtain rfl := Except.ok.inj (hl.symm.trans hq)
    rw [hcontent, (h.file n hform content).mpr hcontent]
  · exact Except.ok.inj (hl.symm.trans hq) ▸ hS

end Matches

end Disk

/-! ## Arguments -/

namespace World

/-- What is in the directories among the arguments can be looked at. -/
def IsOpen (w : World) (arguments : List Value) : Prop :=
  ∀ v ∈ arguments, ∀ path, w.Means v path → w.disk.stat path.text = .ok .directory →
    w.disk.IsOpen path

/-- At a place there is a file that arguments lead to: by their paths, or with the name of a
configuration in a directory. -/
def IsSource (w : World) (arguments : List Value) (q : Place) : Prop :=
  (∃ content, w.disk.find? q = some (.file content)) ∧
    ∃ v ∈ arguments, ∃ path, w.Means v path ∧ (q = w.disk.placeOf path ∨
      ∃ n, (formOf? (path.child n).extension).isSome = true ∧ q = w.disk.placeOf path ++ [n])

/-- The path of an argument leads to a directory. -/
structure NamesDirectory (w : World) (v : Value) (path : Path) : Prop where
  means : w.Means v path
  isPath : checkPath path.text = .ok ⟨⟩
  stat : w.disk.stat path.text = .ok .directory

theorem NamesDirectory.noted {a w : World} {v : Value} {path : Path} (hw : a.Noted w)
    (h : a.NamesDirectory v path) : w.NamesDirectory v path :=
  ⟨by rw [Means, hw.home]; exact h.means, h.isPath, hw.alike.stat_eq_directory_iff.mpr h.stat⟩

end World

namespace Run

/-! ## What a directory stands for -/

theorem after_filterM {α : Type} {f : α → Run Bool} {p : α → Bool} {as : List α} {w : World}
    (h : ∀ a ∈ as, (f a).after w = (.ok (p a), w)) :
    (as.filterM f).after w = (.ok (as.filter p), w) := by
  have haux : ∀ acc,
      (List.filterAuxM f as acc).after w = (.ok ((as.filter p).reverse ++ acc), w) := by
    induction as with
    | nil => exact fun acc => rfl
    | cons a as ih =>
      rw [List.forall_mem_cons] at h
      intro acc
      rw [List.filterAuxM, after_bind, h.1]
      dsimp only
      rw [ih h.2]
      cases hp : p a with
      | true => simp [hp]
      | false => simp [hp]
  rw [List.filterM, after_bind, haux]
  change (Except.ok _, w) = _
  rw [List.append_nil, List.reverse_reverse]

theorem after_find? {path : Text} {w : World} {n : Node} (hpath : checkPath path = .ok ⟨⟩)
    (hn : w.disk.stat path = .ok n) : (find? path).after w = (.ok (some n), w) := by
  rw [find?, hpath]
  dsimp only
  rw [after_get_bind, hn]
  rfl

theorem after_isConfiguration {w : World} {path : Path} {n : Text} (hpath : path.WellFormed)
    (h : w.disk.Reaches path n) : (isConfiguration (path.child n)).after w =
      (.ok (w.disk.HasConfiguration path n), w) := by
  obtain ⟨m, hm⟩ := h.found
  obtain ⟨q, hl, hq⟩ := Disk.stat_eq_ok hm
  obtain rfl := Except.ok.inj ((h.locate hpath).symm.trans hl)
  have hfile : w.disk.HasConfiguration path n ↔
      (formOf? (path.child n).extension).isSome = true ∧ ∃ content, m = .file content := by
    rw [Disk.HasConfiguration, hq]
    simp
  rw [isConfiguration, after_bind, after_find? h.isPath hm]
  cases m with
  | directory =>
    have hno : ¬ w.disk.HasConfiguration path n := fun hyes => by
      obtain ⟨-, content, hcontent⟩ := hfile.mp hyes
      cases hcontent
    rw [decide_eq_false hno]
    rfl
  | file content =>
    have hform : decide (w.disk.HasConfiguration path n) =
        (formOf? (path.child n).extension).isSome := by simp [hfile]
    rw [hform]
    rfl

/-- A directory stands for the files of configurations in it. -/
theorem after_configurationsIn {w : World} {path : Path} {names : List Text}
    (hpath : path.WellFormed) (hstat : w.disk.stat path.text = .ok .directory)
    (hopen : w.disk.IsOpen path) (hnames : w.disk.Lists path names) :
    (configurationsIn path).after w = (.ok (names.map path.child), w) := by
  obtain ⟨q, hl, -⟩ := Disk.stat_eq_ok hstat
  obtain rfl := Disk.locate_text_eq_ok hpath hl
  have hfilter : ((w.disk.namesIn (w.disk.placeOf path)).filterM fun name =>
      isConfiguration (path.child name)).after w =
        (.ok ((w.disk.namesIn (w.disk.placeOf path)).filter fun n =>
          w.disk.HasConfiguration path n), w) :=
    after_filterM fun n hn => after_isConfiguration hpath (hopen n (Disk.mem_namesIn.mp hn))
  rw [configurationsIn, after_get_bind]
  dsimp only
  rw [hl, refuse, pure_bind, after_bind, hfilter]
  dsimp only
  rw [(Disk.lists_mergeSort w.disk path).unique hnames]
  rfl

end Run

end HiveScript
