import HiveScript.Proofs.Disk.Listings
import HiveScript.Proofs.Run.Following
import HiveScript.Proofs.Run.Parallel

/-!
# Worlds that agree

Worlds that need not be the same, but have the same in what matters to a run: their home, their log,
and the files that the run reads.

* `World.Noted`: a world after records.
* `World.SameFiles`: worlds with the same files at some places; `SameFiles.emit`.
* `World.Agrees`: worlds after the same records; **`Agrees.emit`**, `Agrees.emit_left`.
* `Disk.Shares`: paths that lead to the same on two disks; **`parallel_find?`**,
  `parallel_readFile`.
-/

namespace HiveScript

/-! ## Worlds after records -/

theorem Disk.Alike.refl (d : Disk) : d.Alike d := ⟨rfl, fun _ => .rfl, fun _ => .rfl⟩

theorem Disk.Alike.trans {d d' d'' : Disk} (h : d.Alike d') (h' : d'.Alike d'') : d.Alike d'' where
  here := h'.here.trans h.here
  nothing q := (h'.nothing q).trans (h.nothing q)
  directory q := (h'.directory q).trans (h.directory q)

theorem Disk.Alike.placeOf {d d' : Disk} (h : d.Alike d') (p : Path) :
    d'.placeOf p = d.placeOf p := by
  rw [Disk.placeOf, Disk.placeOf, Disk.start, Disk.start, h.here]

/-- There are files where there are files. -/
theorem Disk.Alike.exists_file_iff {d d' : Disk} (h : d.Alike d') (q : Place) :
    (∃ content, d'.find? q = some (.file content)) ↔
      ∃ content, d.find? q = some (.file content) := by
  have hfile : ∀ e : Disk, (∃ content, e.find? q = some (.file content)) ↔
      e.find? q ≠ none ∧ e.find? q ≠ some .directory := fun e => by
    cases e.find? q with
    | none => simp
    | some m => cases m <;> simp
  rw [hfile, hfile, ne_eq, ne_eq, ne_eq, ne_eq, h.nothing, h.directory]

theorem Disk.Alike.stat_eq_directory_iff {d d' : Disk} (h : d.Alike d') {path : Text} :
    d'.stat path = .ok .directory ↔ d.stat path = .ok .directory := by
  simp only [Disk.stat_eq_ok_iff, h.locate, h.directory]

/-- A world after records: the log adds to what is there. -/
structure World.Noted (w v : World) : Prop where
  alike : w.disk.Alike v.disk
  home : v.home = w.home
  moment : v.moment = w.moment
  log : v.log = w.log

namespace World.Noted

theorem refl (w : World) : w.Noted w := ⟨.refl _, rfl, rfl, rfl⟩

theorem emit {w v : World} (h : w.Noted v) (r : Record) : w.Noted (v.emit r) where
  alike := h.alike.trans ((Run.settled_follows [] [] v).emit r v (.refl v)).alike
  home := World.emit_induction (P := fun v => v.home = w.home) (fun _ _ _ _ _ h => h)
    (fun _ _ _ _ h => h) r h.home
  moment := World.emit_induction (P := fun v => v.moment = w.moment) (fun _ _ _ _ _ h => h)
    (fun _ _ _ _ h => h) r h.moment
  log := World.emit_induction (P := fun v => v.log = w.log) (fun _ _ _ _ _ h => h)
    (fun _ _ _ _ h => h) r h.log

end World.Noted

/-! ## The same files -/

theorem Disk.find?_append_eq_file_iff {d : Disk} {p q : Place} {more content : Bytes} :
    (d.append p more).find? q = some (.file content) ↔
      if q = p then ∃ old, d.find? q = some (.file old) ∧ content = old ++ more
      else d.find? q = some (.file content) := by
  split_ifs with hq
  · subst hq
    rw [Disk.append]
    split
    · next old hold =>
      have hne : d.find? q ≠ some .directory := by simp [hold]
      rw [Disk.find?_put_self (Disk.ne_nil_of_find?_ne hne), hold]
      simp [eq_comm]
    · next hno =>
      constructor
      · exact fun h => absurd h (hno content)
      · rintro ⟨old, hold, -⟩
        exact absurd hold (hno old)
  · rw [(Disk.alters_append p more).other q (by simpa using hq)]

/-- Worlds at the same moment, with the same files at some places. -/
structure World.SameFiles (S : Place → Prop) (w u : World) : Prop where
  moment : u.moment = w.moment
  file : ∀ q, S q → ∀ content,
    u.disk.find? q = some (.file content) ↔ w.disk.find? q = some (.file content)

namespace World.SameFiles

variable {S : Place → Prop} {w u : World}

/-- The same is added to the same file. -/
theorem writeTo (h : SameFiles S w u) (target : SinkTarget) (line : Text) :
    SameFiles S (w.writeTo target line) (u.writeTo target line) := by
  unfold World.writeTo
  cases target with
  | console channel =>
    dsimp only
    split <;> split <;> exact ⟨h.moment, h.file⟩
  | file place attached =>
    dsimp only
    split
    · exact ⟨h.moment, fun q hq content => by
        simp only [Disk.find?_append_eq_file_iff, h.file q hq]⟩
    · exact h

theorem emitTo (h : SameFiles S w u) (r : Record) (s : Sink) :
    SameFiles S (w.emitTo r s) (u.emitTo r s) := by
  rw [World.emitTo, World.emitTo, h.moment]
  split_ifs
  · split
    · exact h.writeTo _ _
    · exact h
  · exact h

theorem emit (h : SameFiles S w u) (hlog : u.log = w.log) (r : Record) :
    SameFiles S (w.emit r) (u.emit r) := by
  have hfold : ∀ ss : List Sink, SameFiles S (ss.foldl (World.emitTo r) w)
      (ss.foldl (World.emitTo r) u) := by
    intro ss
    induction ss using List.reverseRecOn with
    | nil => exact h
    | append_singleton ss s ih =>
      rw [List.foldl_append, List.foldl_append]
      exact ih.emitTo r s
  rw [World.emit, World.emit, hlog]
  split_ifs
  · exact hfold _
  · exact h

end World.SameFiles

/-! ## Worlds that agree -/

/-- Worlds after records, of which one had the disk `e` in the place of its own, with the same files
at the places `S`. -/
structure World.Agrees (a : World) (e : Disk) (S : Place → Prop) (w u : World) : Prop
    extends SameFiles S w u where
  left : a.Noted w
  right : { a with disk := e }.Noted u

namespace World.Agrees

variable {a w u : World} {e : Disk} {S : Place → Prop}

/-- **The same record is made in both worlds.** -/
theorem emit (h : a.Agrees e S w u) (r : Record) : a.Agrees e S (w.emit r) (u.emit r) where
  toSameFiles := h.toSameFiles.emit (h.right.log.trans h.left.log.symm) r
  left := h.left.emit r
  right := h.right.emit r

/-- A record is made in one of the worlds, and it goes to none of the files. -/
theorem emit_left (h : a.Agrees e S w u) (hquiet : ∀ q, S q → a.Quiet q) (r : Record) :
    a.Agrees e S (w.emit r) u where
  moment := h.right.moment.trans (h.left.emit r).moment.symm
  file q hq content := by
    have hquiet' : w.Quiet q := by
      rw [World.Quiet, h.left.log]
      exact hquiet q hq
    rw [((Run.settled_follows [] [] w).emit r w (.refl w)).find?_eq hquiet']
    exact h.file q hq content
  left := h.left.emit r
  right := h.right

end World.Agrees

/-- A path leads to the same on two disks, and to a file at one of the places `S` if to a file. -/
structure Disk.Shares (d e : Disk) (S : Place → Prop) (path : Text) : Prop where
  locate : e.locate path = d.locate path
  find? : ∀ q, d.locate path = .ok q → e.find? q = d.find? q
  isFile : ∀ q content, d.locate path = .ok q → d.find? q = some (.file content) → S q

namespace World.Agrees

variable {a w u : World} {e : Disk} {S : Place → Prop} {path : Text}

theorem stat (h : a.Agrees e S w u) (hpath : a.disk.Shares e S path) :
    u.disk.stat path = w.disk.stat path := by
  have hu : u.disk.locate path = a.disk.locate path :=
    (h.right.alike.locate path).trans hpath.locate
  have hw : w.disk.locate path = a.disk.locate path := h.left.alike.locate path
  rw [Disk.stat, Disk.stat, hu, hw]
  cases hl : a.disk.locate path with
  | error problem => rfl
  | ok q =>
    have hsame : u.disk.find? q = w.disk.find? q := by
      have hnode := hpath.find? q hl
      cases hq : a.disk.find? q with
      | none => rw [(h.left.alike.nothing q).mpr hq, (h.right.alike.nothing q).mpr (hnode.trans hq)]
      | some m =>
        cases m with
        | directory =>
          rw [(h.left.alike.directory q).mpr hq, (h.right.alike.directory q).mpr (hnode.trans hq)]
        | file old =>
          obtain ⟨content, hcontent⟩ := (h.left.alike.exists_file_iff q).mpr ⟨old, hq⟩
          rw [hcontent, (h.file q (hpath.isFile q old hl hq) content).mpr hcontent]
    dsimp only [bind, Except.bind]
    rw [hsame]

theorem read (h : a.Agrees e S w u) (hpath : a.disk.Shares e S path) :
    u.disk.read path = w.disk.read path := by
  rw [Disk.read, Disk.read, h.stat hpath]

end World.Agrees

/-! ## Single operations -/

namespace Run

section

variable {a : World} {e : Disk} {S : Place → Prop}

theorem parallel_log (level : Level) (source : Text) (message : Template)
    (context : List (Text × Value)) :
    Parallel (a.Agrees e S) (log level source message context) (log level source message context)
      fun _ => True :=
  fun _ _ h => ⟨rfl, h.emit _, fun _ _ => trivial⟩

theorem parallel_die {α : Type} {Q : α → Prop} (message : Text) :
    Parallel (a.Agrees e S) (die message) (die message) Q :=
  (parallel_log _ _ _ _).bind fun _ _ => .throw

theorem parallel_pathOf (v : Value) :
    Parallel (a.Agrees e S) (pathOf v) (pathOf v) fun path =>
      v.toPath >>= Path.expandHome a.home = .ok path := by
  intro w u h
  have hw : (pathOf v).after w = (ofExcept (v.toPath >>= Path.expandHome a.home)).after w := by
    rw [← h.left.home]
    rfl
  have hu : (pathOf v).after u = (ofExcept (v.toPath >>= Path.expandHome a.home)).after u := by
    rw [show a.home = u.home from h.right.home.symm]
    rfl
  rw [hw, hu]
  exact Parallel.ofExcept (fun _ hr => hr) w u h

theorem parallel_find? {path : Text} (hpath : a.disk.Shares e S path) :
    Parallel (a.Agrees e S) (find? path) (find? path) fun n =>
      n = some .directory → checkPath path = .ok ⟨⟩ ∧ a.disk.stat path = .ok .directory := by
  intro w u h
  rw [find?]
  cases hcheck : checkPath path with
  | error f => exact ⟨rfl, h, fun _ hn hd => by cases hn; cases hd⟩
  | ok t =>
    dsimp only
    rw [after_get_bind, after_get_bind, h.stat hpath]
    split
    · next n hn =>
      refine ⟨rfl, h, fun m hm hd => ⟨rfl, h.left.alike.stat_eq_directory_iff.mp ?_⟩⟩
      rw [hn, ← Option.some.inj ((Except.ok.inj hm).trans hd)]
    · exact ⟨rfl, h, fun _ hn hd => by cases hn; cases hd⟩
    · exact ⟨rfl, h, fun _ hn hd => by cases hn; cases hd⟩
    · exact Parallel.throw w u h

theorem parallel_readFile {path : Text} (hpath : a.disk.Shares e S path) :
    Parallel (a.Agrees e S) (readFile path) (readFile path) fun _ => True := by
  refine (Parallel.ofExcept fun _ _ => trivial).bind fun _ (_ : True) => ?_
  intro w u h
  rw [after_get_bind, after_get_bind, h.read hpath]
  cases w.disk.read path with
  | ok octets => exact ⟨rfl, h, fun _ _ => trivial⟩
  | error problem => exact Parallel.throw w u h

end

end Run

end HiveScript
