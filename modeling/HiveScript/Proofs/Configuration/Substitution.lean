import HiveScript.Proofs.Configuration.Directories

/-!
# A directory is its files

The files of configurations in a directory may take its place among the arguments. It does not
matter in which order a disk tells them, nor what else is there. Runs with a directory and with its
files, or on one disk and on another, go on side by side.

* `World.Alternative`: disks that are the same for arguments.
* `parallel_expandConfiguration`, `parallel_loadConfiguration`: one argument and one file.
* `parallel_expand_replaced`: a directory beside its files.
* **`mergedConfiguration_directory`**: the arguments of a run.
-/

namespace HiveScript

open HiveScript.Configuration

/-! ## Other disks -/

/-- Another disk is the same for the arguments, and on both disks what is in directories can be
looked at. -/
structure World.Alternative (a : World) (e : Disk) (arguments : List Value) : Prop where
  same : ∀ v ∈ arguments, ∀ path, a.Means v path → a.disk.Matches path e
  isOpen : a.IsOpen arguments
  isOpen' : { a with disk := e }.IsOpen arguments

namespace World.Alternative

variable {a w u : World} {e : Disk} {arguments : List Value} {v : Value} {path : Path}

/-- The disk itself is one. -/
theorem refl (h : a.IsOpen arguments) : a.Alternative a.disk arguments :=
  ⟨fun _ _ path _ => .refl path a.disk, h, h⟩

variable (h : a.Alternative e arguments)

include h

theorem agrees : a.Agrees e (a.IsSource arguments) a { a with disk := e } where
  moment := rfl
  file := by
    rintro q ⟨-, v, hv, path, hmeans, hq⟩ content
    have hsame := h.same v hv path hmeans
    rcases hq with rfl | ⟨n, hn, rfl⟩
    · rw [hsame.find?_placeOf hmeans.wellFormed]
    · exact hsame.file n hn content
  left := .refl a
  right := .refl _

section

variable (hv : v ∈ arguments) (hmeans : a.Means v path)

include hv hmeans

theorem shares : a.disk.Shares e (a.IsSource arguments) path.text :=
  (h.same v hv path hmeans).shares hmeans.wellFormed fun content hcontent =>
    ⟨⟨content, hcontent⟩, v, hv, path, hmeans, .inl rfl⟩

variable (hstat : a.disk.stat path.text = .ok .directory)

include hstat

theorem isOpen_right : e.IsOpen path :=
  h.isOpen' v hv path hmeans (((h.same v hv path hmeans).stat hmeans.wellFormed).trans hstat)

theorem shares_child {n : Text} (hn : a.disk.HasConfiguration path n) :
    a.disk.Shares e (a.IsSource arguments) (path.child n).text :=
  (h.same v hv path hmeans).shares_child hmeans.wellFormed
    ⟨hn.2, v, hv, path, hmeans, .inr ⟨n, hn.1, rfl⟩⟩ hn (h.isOpen v hv path hmeans hstat)
    (h.isOpen_right hv hmeans hstat)

end

end World.Alternative

namespace Run

/-! ## Arguments side by side -/

section

variable {a : World} {e : Disk} {arguments : List Value} (h : a.Alternative e arguments)

include h

theorem parallel_configurationsIn {v : Value} {path : Path} (hv : v ∈ arguments)
    (hmeans : a.Means v path) (hstat : a.disk.stat path.text = .ok .directory) :
    Parallel (a.Agrees e (a.IsSource arguments)) (configurationsIn path) (configurationsIn path)
      fun paths => ∀ p ∈ paths, a.disk.Shares e (a.IsSource arguments) p.text := by
  intro w u hagrees
  have hsame := h.same v hv path hmeans
  obtain ⟨names, hnames⟩ : ∃ names, a.disk.Lists path names := ⟨_, Disk.lists_mergeSort _ _⟩
  have hleft := after_configurationsIn hmeans.wellFormed
    (hagrees.left.alike.stat_eq_directory_iff.mpr hstat)
    ((h.isOpen v hv path hmeans hstat).alike hagrees.left.alike) (hnames.alike hagrees.left.alike)
  have hright := after_configurationsIn hmeans.wellFormed
    (hagrees.right.alike.stat_eq_directory_iff.mpr
      ((hsame.stat hmeans.wellFormed).trans hstat))
    ((h.isOpen_right hv hmeans hstat).alike hagrees.right.alike)
    ((hsame.lists hnames).alike hagrees.right.alike)
  rw [hleft, hright]
  refine ⟨rfl, hagrees, fun paths hpaths p hp => ?_⟩
  obtain rfl := Except.ok.inj hpaths
  obtain ⟨n, hn, rfl⟩ := List.mem_map.mp hp
  exact h.shares_child hv hmeans hstat ((hnames.mem_iff n).mp hn)

theorem parallel_expandConfiguration {v : Value} (hv : v ∈ arguments) :
    Parallel (a.Agrees e (a.IsSource arguments)) (expandConfiguration v) (expandConfiguration v)
      fun paths => ∀ p ∈ paths, a.disk.Shares e (a.IsSource arguments) p.text := by
  refine (parallel_pathOf v).bind fun path hmeans => ?_
  have hpath := h.shares hv hmeans
  refine (parallel_find? hpath).bind fun n hn => ?_
  split
  · obtain ⟨-, hstat⟩ := hn rfl
    refine (parallel_configurationsIn h hv hmeans hstat).bind fun paths hpaths => ?_
    split_ifs
    · exact (parallel_log _ _ _ _).bind fun _ _ => .pure hpaths
    · exact .pure hpaths
  · exact .pure fun p hp => List.mem_singleton.mp hp ▸ hpath
  · exact parallel_die _

theorem parallel_expandConfigurations {vs : List Value} (hvs : ∀ v ∈ vs, v ∈ arguments) :
    Parallel (a.Agrees e (a.IsSource arguments)) (expandConfigurations vs)
      (expandConfigurations vs)
      fun paths => ∀ p ∈ paths, a.disk.Shares e (a.IsSource arguments) p.text := by
  refine (Parallel.mapM fun v hv => parallel_expandConfiguration h (hvs v hv)).bind
    fun pathss hpaths => .pure fun p hp => ?_
  obtain ⟨paths, hmem, hp⟩ := List.mem_flatten.mp hp
  exact hpaths paths hmem p hp

end

section

variable {a : World} {e : Disk} {S : Place → Prop}

theorem parallel_loadConfiguration {path : Path} (h : a.disk.Shares e S path.text) :
    Parallel (a.Agrees e S) (loadConfiguration path) (loadConfiguration path) fun _ => True := by
  have hread : Parallel (a.Agrees e S) (readConfiguration path) (readConfiguration path)
      fun _ => True := by
    refine ((parallel_readFile h).bind fun _ _ => .pure trivial).tryCatch fun stop => ?_
    split
    · exact .pure trivial
    · exact .throw
  refine hread.bind fun r _ => ?_
  split
  · exact parallel_die _
  · split
    · split
      · exact .throw
      · exact parallel_die _
    · exact (parallel_log _ _ _ _).bind fun _ _ => .ofExcept fun _ _ => trivial

theorem parallel_loadConfigurations {paths : List Path}
    (h : ∀ p ∈ paths, a.disk.Shares e S p.text) :
    Parallel (a.Agrees e S) (loadConfigurations paths) (loadConfigurations paths) fun _ => True :=
  .foldlM (fun p hp _ => (parallel_loadConfiguration (h p hp)).bind fun _ _ => .pure trivial) []

end

/-! ## A directory and its files -/

theorem expandConfigurations_append (vs vs' : List Value) :
    expandConfigurations (vs ++ vs') = do
      let paths ← expandConfigurations vs
      let paths' ← expandConfigurations vs'
      return paths ++ paths' := by
  simp only [expandConfigurations, List.mapM_append, bind_assoc, pure_bind, List.flatten_append]

theorem expandConfigurations_singleton (v : Value) :
    expandConfigurations [v] = expandConfiguration v := by
  simp [expandConfigurations]

/-- A directory without configurations is told of. -/
theorem after_expandConfiguration {w : World} {v : Value} {path : Path} {names : List Text}
    (hv : w.NamesDirectory v path) (hopen : w.disk.IsOpen path) (hnames : w.disk.Lists path names) :
    (expandConfiguration v).after w = (.ok (names.map path.child),
      if names = [] then w.emit ⟨Level.warning, mainLogger, recordSource,
        ⟨"Config directory has no config files: %s", [.text path.text]⟩, [], none⟩
      else w) := by
  have hpath : (pathOf v).after w = (.ok path, w) := by
    change (ofExcept (v.toPath >>= Path.expandHome w.home)).after w = _
    rw [hv.means]
    rfl
  rw [expandConfiguration, after_bind, hpath]
  dsimp only
  rw [after_bind, after_find? hv.isPath hv.stat]
  dsimp only
  rw [after_bind, after_configurationsIn hv.means.wellFormed hv.stat hopen hnames]
  cases names with
  | nil => rfl
  | cons n names => rfl

/-- A path without a tilde in front names itself. -/
theorem expandHome_of_head?_ne {home : Text} {path : Path}
    (h : path.text.head? ≠ some (Point.ofChar '~')) : path.expandHome home = .ok path := by
  have hfirst : ∀ first rest, path.root = [] → path.names = first :: rest →
      first.head? ≠ some (Point.ofChar '~') := by
    intro first rest hroot hnames hhead
    obtain ⟨t, rfl⟩ := List.head?_eq_some_iff.mp hhead
    refine h ?_
    rw [Path.text, hroot, hnames]
    cases rest <;> rfl
  rw [Path.expandHome]
  split
  · next first rest hroot hnames =>
    have hhead := hfirst first rest hroot hnames
    have hne : first ≠ [Point.ofChar '~'] := by
      rintro rfl
      exact hhead rfl
    rw [if_neg hne, if_neg hhead]
  · rfl

/-- The path of a file is the file. -/
theorem after_expandConfiguration_file {w : World} {path : Path} {content : Bytes}
    (hpath : path.WellFormed) (htilde : path.text.head? ≠ some (Point.ofChar '~'))
    (hcheck : checkPath path.text = .ok ⟨⟩) (hstat : w.disk.stat path.text = .ok (.file content)) :
    (expandConfiguration (.text path.text)).after w = (.ok [path], w) := by
  have hpathOf : (pathOf (.text path.text)).after w = (.ok path, w) := by
    change (ofExcept ((Path.ofText path.text).expandHome w.home)).after w = _
    rw [Path.ofText_text hpath, expandHome_of_head?_ne htilde]
    rfl
  rw [expandConfiguration, after_bind, hpathOf]
  dsimp only
  rw [after_bind, after_find? hcheck hstat]
  rfl

/-- The paths of files are the files. -/
theorem after_expandConfigurations_files {w : World} {paths : List Path}
    (h : ∀ p ∈ paths, (expandConfiguration (.text p.text)).after w = (.ok [p], w)) :
    (expandConfigurations (paths.map fun p => .text p.text)).after w = (.ok paths, w) := by
  have hmap : ((paths.map fun p : Path => Value.text p.text).mapM expandConfiguration).after w =
      (.ok (paths.map fun p => [p]), w) := by
    induction paths with
    | nil => rfl
    | cons p paths ih =>
      rw [List.forall_mem_cons] at h
      rw [List.map_cons, List.mapM_cons, after_bind, h.1]
      dsimp only
      rw [after_bind, ih h.2]
      rfl
  rw [expandConfigurations, after_bind, hmap]
  change (Except.ok (paths.map fun p => [p]).flatten, w) = _
  rw [← List.flatMap_def, List.flatMap_singleton']

section

variable {a : World} {arguments : List Value} {v : Value} {path : Path} {names : List Text}

/-- **A directory among arguments stands for what its files stand for.** If it has none, it is told
of, but not to any file that is read. -/
theorem parallel_expand_replaced (hopen : a.IsOpen arguments) (hv : v ∈ arguments)
    (hdirectory : a.NamesDirectory v path) (hnames : a.disk.Lists path names)
    (htilde : ∀ n ∈ names, (path.child n).text.head? ≠ some (Point.ofChar '~'))
    (hquiet : names = [] → ∀ q, a.IsSource arguments q → a.Quiet q) :
    Parallel (a.Agrees a.disk (a.IsSource arguments)) (expandConfigurations [v])
      (expandConfigurations (names.map fun n => .text (path.child n).text))
      fun paths => ∀ p ∈ paths, a.disk.Shares a.disk (a.IsSource arguments) p.text := by
  intro w u hagrees
  have hpath := hdirectory.means.wellFormed
  have halternative := World.Alternative.refl hopen
  have hopenPath := hopen v hv path hdirectory.means hdirectory.stat
  have hfile : ∀ n ∈ names,
      (expandConfiguration (.text (path.child n).text)).after u = (.ok [path.child n], u) := by
    intro n hn
    have hthere := (hnames.mem_iff n).mp hn
    have hreach := (hopenPath.reaches hthere).alike hagrees.right.alike
    obtain ⟨-, content, hcontent⟩ := hagrees.right.alike.hasConfiguration_iff.mpr hthere
    exact after_expandConfiguration_file (hpath.child hreach.isName hreach.noSlash) (htilde n hn)
      hreach.isPath (Disk.stat_of_locate_eq_ok (hreach.locate hpath) hcontent)
  have hright : (expandConfigurations (names.map fun n => .text (path.child n).text)).after u =
      (.ok (names.map path.child), u) := by
    have hfiles := after_expandConfigurations_files (List.forall_mem_map.mpr hfile)
    rwa [List.map_map] at hfiles
  have hleft := after_expandConfiguration (hdirectory.noted hagrees.left)
    (hopenPath.alike hagrees.left.alike) (hnames.alike hagrees.left.alike)
  have hagrees' : a.Agrees a.disk (a.IsSource arguments)
      ((expandConfiguration v).after w).2 u := by
    rw [hleft]
    dsimp only
    split_ifs with hnone
    · exact hagrees.emit_left (hquiet hnone) _
    · exact hagrees
  rw [expandConfigurations_singleton, hright]
  refine ⟨by rw [hleft], hagrees', fun paths hpaths p hp => ?_⟩
  rw [hleft] at hpaths
  obtain rfl := Except.ok.inj hpaths
  obtain ⟨n, hn, rfl⟩ := List.mem_map.mp hp
  exact halternative.shares_child hv hdirectory.means hdirectory.stat ((hnames.mem_iff n).mp hn)

end

/-- Arguments side by side come to the same if their parts do. -/
theorem parallel_expand_append {R : World → World → Prop} {Q : Path → Prop}
    {us us' vs vs' : List Value}
    (hus : Parallel R (expandConfigurations us) (expandConfigurations us') fun ps => ∀ p ∈ ps, Q p)
    (hvs : Parallel R (expandConfigurations vs) (expandConfigurations vs')
      fun ps => ∀ p ∈ ps, Q p) :
    Parallel R (expandConfigurations (us ++ vs)) (expandConfigurations (us' ++ vs'))
      fun ps => ∀ p ∈ ps, Q p := by
  rw [expandConfigurations_append, expandConfigurations_append]
  refine hus.bind fun ps hps => hvs.bind fun ps' hps' => .pure ?_
  exact List.forall_mem_append.mpr ⟨hps, hps'⟩

/-- A world with some files, and with sinks for warnings. -/
def cabinet (nodes : List (Place × Node)) (sinks : List Sink) : World where
  disk := ⟨[], nodes⟩
  home := "/"
  moment := ⟨0⟩
  process := 1
  input := .octets []
  output := ⟨.strict, false, []⟩
  messages := ⟨.strict, false, []⟩
  log := ⟨Level.warning, sinks⟩

/-- A document without entries. -/
def blank : Node := .file (Utf8.encode "\x7b\x7d")

/-- A directory with two configurations and something else. -/
def folder : World :=
  cabinet [(["d"], .directory), (["d", "b.json"], blank), (["d", "c.txt"], .file []),
    (["d", "A.JSON"], blank)] []

/-- The disk of the folder without the other thing, and in another order. -/
def tidied : Disk := (folder.disk.erase ["d", "c.txt"]).put ["d", "A.JSON"] blank

theorem matches_tidied : folder.disk.Matches (.ofText "d") tidied := by
  have hfind : ∀ q : Place, q ≠ [("d" : Text), "c.txt"] → tidied.find? q = folder.disk.find? q := by
    intro q hq
    by_cases hfirst : q = [("d" : Text), "A.JSON"]
    · rw [hfirst, tidied, Disk.find?_put_self (List.cons_ne_nil _ _)]
      decide +kernel
    · rw [tidied, Disk.find?_put_of_ne hfirst, Disk.find?_erase_of_ne hq]
  refine ⟨rfl, ?_, fun n hn content => ?_⟩
  · rintro _ ⟨⟨root, names⟩, hroot, hnames, rfl⟩
    obtain rfl : root = [] := hroot
    refine hfind _ ?_
    rcases List.prefix_cons_iff.mp hnames with rfl | ⟨ns, rfl, hns⟩
    · decide +kernel
    · obtain rfl := List.prefix_nil.mp hns
      decide +kernel
  · have hne : n ≠ "c.txt" := by
      rintro rfl
      exact absurd hn (by decide +kernel)
    have hplace : folder.disk.placeOf (.ofText "d") = [("d" : Text)] := rfl
    rw [hplace, hfind]
    simpa using hne

/-- The configurations of arguments can be merged. -/
def merges (arguments : List Value) (w : World) : Bool :=
  ((mergedConfiguration arguments).after w).1.isOk

/-- A directory of one file, with a tilde in front. -/
def tildeFolder : World := cabinet [(["~.json"], blank)] []

/-- A directory with nothing in it, beside a configuration that the log is written to. -/
def loggedFolder : World :=
  cabinet [(["d"], .directory), (["l.json"], blank)] [⟨.file ["l.json"] true, Level.warning, .json⟩]

def longName : Text := List.replicate 251 (Point.ofChar 'd')

/-- A path that leads into a directory and out of it again and again. -/
def windingPath : Text :=
  Text.join [slash] (longName :: (List.replicate 15 [[dot, dot], longName]).flatten)

/-- A directory with a configuration and other files. -/
def longFolder (others : List Text) : World :=
  cabinet (([longName], .directory) :: ([longName, "a.json"], blank) ::
    others.map fun n => ([longName, n], .file [])) []

end Run

end HiveScript
