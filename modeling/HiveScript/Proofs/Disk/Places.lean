import HiveScript.Disk.Basic
import HiveScript.Proofs.Disk.Paths
import HiveScript.Proofs.Results

/-!
# Places of paths

A written path that leads anywhere leads to the place that its names spell, and it goes on to lead
there as long as directories stay where they are.

* `Disk.placeOf`: the place that the names of a path spell; **`locate_eq_ok`**.
* **`locate_text_ofText`**: a path that is read and written again leads where it led.
* `Disk.Grows`: directories stay; **`Grows.locate`**.
* `Disk.Alters`: a disk after operations, which change what is at some places only.
* `makeDirectory_eq_ok` and so on: what each operation does.
-/

namespace HiveScript

/-- The place of a name seen from a place; two dots lead to the directory above. -/
def Place.enter (p : Place) (n : Text) : Place := if n = [dot, dot] then p.dropLast else p ++ [n]

namespace Disk

/-! ## What paths spell -/

/-- Where a path starts. -/
def start (d : Disk) (p : Path) : Place := if p.root = [] then d.here else []

/-- The place that the names of a path spell, without regard to what is there. -/
def placeOf (d : Disk) (p : Path) : Place := p.names.foldl Place.enter (d.start p)

theorem placeOf_child (d : Disk) (p : Path) {n : Text} (hn : n ≠ [dot, dot]) :
    d.placeOf (p.child n) = d.placeOf p ++ [n] := by
  rw [placeOf, Path.child, List.foldl_append, List.foldl_cons, List.foldl_nil, Place.enter,
    if_neg hn]
  rfl

/-- Names without two dots are spelled one after the other. -/
theorem foldl_enter {ns : List Text} (hns : [dot, dot] ∉ ns) (p : Place) :
    ns.foldl Place.enter p = p ++ ns := by
  induction ns generalizing p with
  | nil => rw [List.foldl_nil, List.append_nil]
  | cons n ns ih =>
    rw [List.mem_cons, not_or] at hns
    rw [List.foldl_cons, Place.enter, if_neg (Ne.symm hns.1), ih hns.2, List.append_assoc,
      List.singleton_append]

theorem walk_eq_ok {d : Disk} {p q : Place} {ns : List Text} (h : d.walk p ns = .ok q) :
    q = (ns.filter Path.isName).foldl Place.enter p := by
  induction ns generalizing p with
  | nil => exact (Except.ok.inj h).symm
  | cons n ns ih =>
    rw [walk] at h
    split at h
    · cases h
    · cases h
    split_ifs at h with hname hdots hlong
    · rw [List.filter_cons_of_neg (by simpa using hname), ih h]
    · rw [List.filter_cons_of_pos (by simpa using hname), List.foldl_cons, Place.enter,
        if_pos hdots, ih h]
    · rw [List.filter_cons_of_pos (by simpa using hname), List.foldl_cons, Place.enter,
        if_neg hdots, ih h]

/-- The place at which the walk along a written path starts. -/
theorem start_ofText (d : Disk) (path : Text) :
    d.start (Path.ofText path) = if path.head? = some slash then [] else d.here := by
  have hroot : (Path.ofText path).root = [] ↔ path.head? ≠ some slash := by
    cases path with
    | nil => simp [Path.ofText, Path.rootOf]
    | cons a s =>
      rw [List.head?_cons, Path.ofText, Path.rootOf]
      by_cases ha : a = slash
      · rw [List.takeWhile_cons_of_pos (by simpa using ha)]
        cases s.takeWhile (· = slash) with
        | nil => simp [ha]
        | cons b t => cases t <;> simp [ha]
      · rw [List.takeWhile_cons_of_neg (by simpa using ha)]
        simp [ha]
  rw [start]
  by_cases h : path.head? = some slash
  · rw [if_pos h, if_neg (fun hr => hroot.mp hr h)]
  · rw [if_neg h, if_pos (hroot.mpr h)]

/-- **A written path that leads anywhere leads to the place that its names spell.** -/
theorem locate_eq_ok {d : Disk} {path : Text} {q : Place} (h : d.locate path = .ok q) :
    q = d.placeOf (Path.ofText path) := by
  rw [locate] at h
  split_ifs at h with hempty hlong hslash
  · rw [walk_eq_ok h, placeOf, start_ofText, if_pos hslash]
    rfl
  · rw [walk_eq_ok h, placeOf, start_ofText, if_neg hslash]
    rfl

theorem locate_text_eq_ok {d : Disk} {p : Path} (hp : p.WellFormed) {q : Place}
    (h : d.locate p.text = .ok q) : q = d.placeOf p := by
  rw [locate_eq_ok h, Path.ofText_text hp]

/-! ## Paths that are written again -/

/-- A path with fewer points has fewer octets. -/
theorem octetCount_le_of_sublist {s t : Text} (h : List.Sublist s t) :
    octetCount s ≤ octetCount t := by
  have hsum : ∀ s, octetCount s =
      (s.map fun p => if p.isEscapedOctet then 1 else (Utf8.octets p).length).sum := fun s => by
    rw [octetCount, List.sum_eq_foldl, List.foldl_map]
  rw [hsum, hsum]
  induction h with
  | slnil => exact le_refl _
  | cons p _ ih =>
    rw [List.map_cons, List.sum_cons]
    exact ih.trans (Nat.le_add_left _ _)
  | cons_cons p _ ih =>
    rw [List.map_cons, List.map_cons, List.sum_cons, List.sum_cons]
    exact Nat.add_le_add_left ih _

/-- What is no name makes no difference to where names lead. -/
theorem walk_filter {d : Disk} {p q : Place} {ns : List Text} (h : d.walk p ns = .ok q) :
    d.walk p (ns.filter Path.isName) = .ok q := by
  induction ns generalizing p with
  | nil => exact h
  | cons n ns ih =>
    rw [walk] at h
    split at h
    · cases h
    · cases h
    next hp =>
      split_ifs at h with hname hdots hlong
      · rw [List.filter_cons_of_neg (by simpa using hname)]
        exact ih h
      · rw [List.filter_cons_of_pos (by simpa using hname), walk, hp]
        dsimp only
        rw [if_neg hname, if_pos hdots]
        exact ih h
      · rw [List.filter_cons_of_pos (by simpa using hname), walk, hp]
        dsimp only
        rw [if_neg hname, if_neg hdots, if_neg hlong]
        exact ih h

theorem walk_append {d : Disk} {p : Place} (hp : d.find? p = some .directory) {as : List Text}
    (has : ∀ n ∈ as, Path.isName n = false) (ns : List Text) :
    d.walk p (as ++ ns) = d.walk p ns := by
  induction as with
  | nil => rfl
  | cons a as ih =>
    rw [List.forall_mem_cons] at has
    rw [List.cons_append, walk, hp]
    dsimp only
    rw [if_pos (by rw [has.1]; rfl), ih has.2]

/-- **A written path that leads anywhere leads there when it is read and written again.** -/
theorem locate_text_ofText {d : Disk} {s : Text} {q : Place} (h : d.locate s = .ok q) :
    d.locate (Path.ofText s).text = .ok q := by
  have hpath := Path.wellFormed_ofText s
  have hstart := start_ofText d (Path.ofText s).text
  rw [Path.ofText_text hpath] at hstart
  obtain ⟨hlong, hwalk⟩ : ¬ maxPath < octetCount s ∧
      d.walk (d.start (Path.ofText s)) (s.fields (· = slash)) = .ok q := by
    rw [locate] at h
    rw [start_ofText]
    split_ifs at h ⊢
    · exact ⟨‹_›, h⟩
    · exact ⟨‹_›, h⟩
  -- The walk begins in a directory, since there is always a first field.
  have hdirectory : d.find? (d.start (Path.ofText s)) = some .directory := by
    obtain ⟨n, ns, hfields⟩ := Text.exists_fields_eq_cons (· = slash) s
    rw [hfields, walk] at hwalk
    split at hwalk
    · cases hwalk
    · cases hwalk
    next hp => exact hp
  have hshort : ¬ maxPath < octetCount (Path.ofText s).text := by
    rcases Path.text_ofText s with hdot | hsub
    · rw [hdot]
      decide
    · exact fun hlt => hlong (hlt.trans_le (octetCount_le_of_sublist hsub))
  obtain ⟨as, has, hfields⟩ := Path.exists_fields_text_append hpath
  rw [locate, if_neg (by simpa using Path.text_ne_nil hpath), if_neg hshort, ← hstart, hfields,
    walk_append hdirectory has]
  exact walk_filter hwalk

/-! ## Disks that grow -/

/-- Directories stay. -/
structure Grows (d d' : Disk) : Prop where
  here : d'.here = d.here
  directory : ∀ p, d.find? p = some .directory → d'.find? p = some .directory

namespace Grows

variable {d d' d'' : Disk}

theorem refl (d : Disk) : d.Grows d := ⟨rfl, fun _ h => h⟩

theorem trans (h : d.Grows d') (h' : d'.Grows d'') : d.Grows d'' :=
  ⟨h'.here.trans h.here, fun p hp => h'.directory p (h.directory p hp)⟩

theorem placeOf (h : d.Grows d') (p : Path) : d'.placeOf p = d.placeOf p := by
  rw [Disk.placeOf, Disk.placeOf, start, start, h.here]

theorem walk (h : d.Grows d') {p q : Place} {ns : List Text} (hw : d.walk p ns = .ok q) :
    d'.walk p ns = .ok q := by
  induction ns generalizing p with
  | nil => exact hw
  | cons n ns ih =>
    rw [Disk.walk] at hw ⊢
    split at hw
    · cases hw
    · cases hw
    next hp =>
      rw [h.directory p hp]
      dsimp only
      split_ifs at hw ⊢
      · exact ih hw
      · exact ih hw
      · exact ih hw

/-- **A written path that leads anywhere goes on to lead there.** -/
theorem locate (h : d.Grows d') {path : Text} {q : Place} (hl : d.locate path = .ok q) :
    d'.locate path = .ok q := by
  rw [Disk.locate] at hl ⊢
  rw [h.here]
  split_ifs at hl ⊢
  · exact h.walk hl
  · exact h.walk hl

theorem walk_nameTooLong (h : d.Grows d') {p : Place} {ns : List Text}
    (hw : d.walk p ns = .error .nameTooLong) : d'.walk p ns = .error .nameTooLong := by
  induction ns generalizing p with
  | nil => cases hw
  | cons n ns ih =>
    rw [Disk.walk] at hw ⊢
    split at hw
    · cases hw
    · cases hw
    next hp =>
      rw [h.directory p hp]
      dsimp only
      split_ifs at hw ⊢
      · exact ih hw
      · exact ih hw
      · rfl
      · exact ih hw

end Grows

/-! ## What is at a place after a change -/

variable {d d' d'' : Disk} {p q : Place} {n : Node}

theorem find?_filter_ne (h : q ≠ p) (es : List (Place × Node)) :
    (es.filter fun e => e.1 ≠ p).find? (fun e => e.1 = q) = es.find? fun e => e.1 = q := by
  rw [List.find?_filter]
  congr 1
  funext e
  by_cases he : e.1 = q
  · simp [he, h]
  · simp [he]

theorem find?_put_of_ne (h : q ≠ p) : (d.put p n).find? q = d.find? q := by
  rw [find?, find?, put]
  dsimp only
  rw [List.find?_cons_of_neg (by simpa using Ne.symm h), find?_filter_ne h]

theorem find?_put_self (h : p ≠ []) : (d.put p n).find? p = some n := by
  rw [find?, if_neg h, put, List.find?_cons_of_pos (by simp)]
  rfl

theorem find?_erase_of_ne (h : q ≠ p) : (d.erase p).find? q = d.find? q := by
  rw [find?, find?, erase]
  dsimp only
  rw [find?_filter_ne h]

theorem find?_erase_self (h : p ≠ []) : (d.erase p).find? p = none := by
  rw [find?, if_neg h, erase, List.find?_filter]
  simp

/-- The root is a directory. -/
theorem ne_nil_of_find?_ne (h : d.find? p ≠ some .directory) : p ≠ [] := fun hp =>
  h (by rw [hp, find?, if_pos rfl])

/-! ## Operations -/

/-- A disk after operations, which change what is at the places `ps` only. -/
structure Alters (ps : List Place) (d d' : Disk) : Prop extends d.Grows d' where
  other : ∀ q, q ∉ ps → d'.find? q = d.find? q

theorem Alters.trans {ps qs : List Place} (h : Alters ps d d') (h' : Alters qs d' d'') :
    Alters (ps ++ qs) d d'' where
  toGrows := h.toGrows.trans h'.toGrows
  other q hq := by
    rw [List.mem_append, not_or] at hq
    rw [h'.other q hq.2, h.other q hq.1]

theorem alters_put (n : Node) (h : d.find? p ≠ some .directory) : Alters [p] d (d.put p n) where
  here := rfl
  directory q hq := by
    have hqp : q ≠ p := fun hqp => h (hqp ▸ hq)
    rw [find?_put_of_ne hqp, hq]
  other q hq := find?_put_of_ne (by simpa using hq)

theorem alters_erase (h : d.find? p ≠ some .directory) : Alters [p] d (d.erase p) where
  here := rfl
  directory q hq := by
    have hqp : q ≠ p := fun hqp => h (hqp ▸ hq)
    rw [find?_erase_of_ne hqp, hq]
  other q hq := find?_erase_of_ne (by simpa using hq)

/-- A file that gets another path goes from one place and comes to another. -/
theorem alters_rename {content : Bytes} (hp : d.find? p = some (.file content))
    (hq : d.find? q ≠ some .directory) :
    Alters ([p] ++ [q]) d ((d.erase p).put q (.file content)) := by
  have hfile : d.find? p ≠ some .directory := by
    rw [hp]
    exact nofun
  refine (alters_erase hfile).trans (alters_put _ ?_)
  by_cases hqp : q = p
  · rw [hqp, find?_erase_self (ne_nil_of_find?_ne hfile)]
    exact nofun
  · rwa [find?_erase_of_ne hqp]

variable {path source target : Text} {content : Bytes}

theorem stat_eq_ok (h : d.stat path = .ok n) :
    ∃ p, d.locate path = .ok p ∧ d.find? p = some n := by
  obtain ⟨p, hl, h⟩ := exists_of_bind_eq_ok h
  split at h
  · next m hm => exact ⟨p, hl, hm.trans (congrArg some (Except.ok.inj h))⟩
  · cases h

theorem stat_of_locate_eq_ok (hl : d.locate path = .ok p) (hn : d.find? p = some n) :
    d.stat path = .ok n := by
  simp only [stat, hl, hn, bind, Except.bind, pure, Except.pure]

theorem stat_eq_ok_iff : d.stat path = .ok n ↔ ∃ p, d.locate path = .ok p ∧ d.find? p = some n :=
  ⟨stat_eq_ok, fun ⟨_, hl, hn⟩ => stat_of_locate_eq_ok hl hn⟩

theorem stat_eq_error_iff {e : FileProblem} : d.stat path = .error e ↔
    d.locate path = .error e ∨ (∃ p, d.locate path = .ok p ∧ d.find? p = none) ∧ e = .noEntry := by
  rw [stat]
  cases d.locate path with
  | error f =>
    dsimp only [bind, Except.bind]
    refine ⟨fun h => .inl (congrArg _ (Except.error.inj h)), fun h => ?_⟩
    rcases h with h | ⟨⟨_, h, _⟩, -⟩
    · exact congrArg _ (Except.error.inj h)
    · cases h
  | ok p =>
    dsimp only [bind, Except.bind]
    cases hp : d.find? p with
    | none =>
      refine ⟨fun h => .inr ⟨⟨p, rfl, hp⟩, (Except.error.inj h).symm⟩, ?_⟩
      rintro (h | ⟨-, rfl⟩)
      · cases h
      · rfl
    | some n =>
      constructor
      · intro h
        cases h
      · rintro (h | ⟨⟨q, hl, hq⟩, -⟩)
        · cases h
        · obtain rfl := Except.ok.inj hl
          cases hp.symm.trans hq

theorem read_eq_ok_iff :
    d.read path = .ok content ↔ ∃ p, d.locate path = .ok p ∧ d.find? p = some (.file content) := by
  constructor
  · intro h
    obtain ⟨m, hm, h⟩ := exists_of_bind_eq_ok h
    obtain ⟨p, hl, hp⟩ := stat_eq_ok hm
    cases m with
    | directory => cases h
    | file found =>
      obtain rfl : found = content := Except.ok.inj h
      exact ⟨p, hl, hp⟩
  · rintro ⟨p, hl, hp⟩
    rw [read, stat_of_locate_eq_ok hl hp]
    rfl

theorem makeDirectory_eq_ok (h : d.makeDirectory path = .ok d') :
    ∃ p, d.locate path = .ok p ∧ d.find? p = none ∧ d' = d.put p .directory := by
  obtain ⟨p, hl, h⟩ := exists_of_bind_eq_ok h
  split at h
  · cases h
  next hp => exact ⟨p, hl, hp, (Except.ok.inj h).symm⟩

theorem create_eq_ok (h : d.create path = .ok d') :
    ∃ p, d.locate path = .ok p ∧ d.find? p = none ∧ d' = d.put p (.file []) := by
  obtain ⟨p, hl, h⟩ := exists_of_bind_eq_ok h
  split at h
  · cases h
  next hp => exact ⟨p, hl, hp, (Except.ok.inj h).symm⟩

theorem write_eq_ok (h : d.write path content = .ok d') :
    ∃ p, d.locate path = .ok p ∧ d.find? p ≠ some .directory ∧ d' = d.put p (.file content) := by
  obtain ⟨p, hl, h⟩ := exists_of_bind_eq_ok h
  split at h
  · cases h
  next hp => exact ⟨p, hl, hp, (Except.ok.inj h).symm⟩

theorem remove_eq_ok (h : d.remove path = .ok d') :
    ∃ p content, d.locate path = .ok p ∧ d.find? p = some (.file content) ∧ d' = d.erase p := by
  obtain ⟨p, hl, h⟩ := exists_of_bind_eq_ok h
  split at h
  next content hp => exact ⟨p, content, hl, hp, (Except.ok.inj h).symm⟩
  · cases h
  · cases h

theorem rename_eq_ok (h : d.rename source target = .ok d') :
    ∃ p q content, d.locate source = .ok p ∧ d.locate target = .ok q ∧
      d.find? p = some (.file content) ∧ d.find? q ≠ some .directory ∧
      d' = (d.erase p).put q (.file content) := by
  obtain ⟨p, hp, h⟩ := exists_of_bind_eq_ok h
  obtain ⟨q, hq, h⟩ := exists_of_bind_eq_ok h
  by_cases hname : (!endsInName target) = true
  · rw [if_pos hname] at h
    cases h
  rw [if_neg hname] at h
  split at h
  next content hfile =>
    split_ifs at h with hprefix hdirectory
    exact ⟨p, q, content, hp, hq, hfile, hdirectory, (Except.ok.inj h).symm⟩
  · cases h

end Disk

end HiveScript
