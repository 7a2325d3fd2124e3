import HiveScript.Proofs.Disk.Overlays
import HiveScript.Proofs.Run.Atomic

/-!
# Worlds that follow on another

What a world has become once files were written in it one after the other, with the directories that
they need, while records were made and streams were used.

* `World.Quiet`: places to which no sink adds.
* `World.Follows`: a world under files, with further directories on the way to what was tried.
* `Follows.trans`: files after files.
* **`Run.settled_follows`**: records and streams make no difference.
* **`World.Placed.follows`**, `World.Cleared.follows`: the two endings of a writing in one step.
-/

namespace HiveScript

/-- No sink of the log adds to what is at a place. -/
def World.Quiet (w : World) (q : Place) : Prop := ∀ s ∈ w.log.sinks, s.target ≠ .file q true

/-- A world under files that were written. There may be directories on the way to what was tried. -/
structure World.Follows (files : List (Path × Bytes)) (tried : List Path) (w v : World) : Prop where
  grows : w.disk.Grows v.disk
  /-- What is there stays there. -/
  stays : ∀ q, w.disk.find? q ≠ none → v.disk.find? q ≠ none
  /-- Only the files come there, and directories on the way. -/
  comes : ∀ q, v.disk.find? q ≠ none → w.disk.find? q ≠ none ∨
    (∃ file ∈ files, w.disk.placeOf (.ofText file.1.text) = q) ∨
      ∃ t ∈ tried, w.disk.OnWay t.parent q
  /-- Directories come only on the way to what was tried. -/
  made : ∀ q, v.disk.find? q = some .directory →
    w.disk.find? q = some .directory ∨ ∃ t ∈ tried, w.disk.OnWay t.parent q
  quiet : ∀ q, w.Quiet q → v.Quiet q
  find? : ∀ q, w.Quiet q → v.disk.find? q = w.disk.overlay q (w.disk.find? q) files ∨
    w.disk.overlay q (w.disk.find? q) files = none ∧ v.disk.find? q = some .directory ∧
      ∃ t ∈ tried, w.disk.OnWay t.parent q

namespace World.Follows

variable {w v u : World} {files files' : List (Path × Bytes)} {tried tried' : List Path} {q : Place}

theorem refl (w : World) : w.Follows [] [] w :=
  ⟨.refl _, fun _ h => h, fun _ h => .inl h, fun _ h => .inl h, fun _ h => h, fun _ _ => .inl rfl⟩

theorem mono (h : w.Follows files tried v) (htried : tried ⊆ tried') :
    w.Follows files tried' v where
  grows := h.grows
  stays := h.stays
  comes q hq := (h.comes q hq).imp_right fun hnew =>
    hnew.imp_right fun ⟨t, ht, hway⟩ => ⟨t, htried ht, hway⟩
  made q hq := (h.made q hq).imp_right fun ⟨t, ht, hway⟩ => ⟨t, htried ht, hway⟩
  quiet := h.quiet
  find? q hq := (h.find? q hq).imp_right fun ⟨hnone, hdirectory, t, ht, hway⟩ =>
    ⟨hnone, hdirectory, t, htried ht, hway⟩

/-- **Files are written after files.** -/
theorem trans (h : w.Follows files tried v) (h' : v.Follows files' tried' u) :
    w.Follows (files ++ files') (tried ++ tried') u where
  grows := h.grows.trans h'.grows
  stays q hq := h'.stays q (h.stays q hq)
  comes q hq := by
    have hlater := h'.comes q hq
    simp only [h.grows.placeOf, h.grows.onWay_iff] at hlater
    rcases hlater with hq | ⟨file, hfile, hplace⟩ | ⟨t, ht, hway⟩
    · refine (h.comes q hq).imp_right (Or.imp ?_ ?_)
      · rintro ⟨file, hfile, hplace⟩
        exact ⟨file, List.mem_append_left _ hfile, hplace⟩
      · rintro ⟨t, ht, hway⟩
        exact ⟨t, List.mem_append_left _ ht, hway⟩
    · exact .inr (.inl ⟨file, List.mem_append_right _ hfile, hplace⟩)
    · exact .inr (.inr ⟨t, List.mem_append_right _ ht, hway⟩)
  made q hq := by
    rcases h'.made q hq with hq | ⟨t, ht, hway⟩
    · refine (h.made q hq).imp_right ?_
      rintro ⟨t, ht, hway⟩
      exact ⟨t, List.mem_append_left _ ht, hway⟩
    · exact .inr ⟨t, List.mem_append_right _ ht, h.grows.onWay_iff.mp hway⟩
  quiet q hq := h'.quiet q (h.quiet q hq)
  find? q hq := by
    have hlater := h'.find? q (h.quiet q hq)
    simp only [h.grows.overlay, h.grows.onWay_iff] at hlater
    rw [Disk.overlay_append]
    rcases h.find? q hq with he | ⟨hnone, hdirectory, t, ht, hway⟩
    · rw [he] at hlater
      refine hlater.imp_right ?_
      rintro ⟨hnone, hdirectory, t, ht, hway⟩
      exact ⟨hnone, hdirectory, t, List.mem_append_right _ ht, hway⟩
    · -- There is a directory by now, which is not there if only the files are looked at.
      rw [hdirectory] at hlater
      rw [hnone]
      by_cases hfiles : ∃ file ∈ files', w.disk.placeOf (.ofText file.1.text) = q
      · rw [Disk.overlay_congr hfiles (y := some .directory)]
        refine hlater.imp_right ?_
        rintro ⟨hnone, hdirectory, t, ht, hway⟩
        exact ⟨hnone, hdirectory, t, List.mem_append_right _ ht, hway⟩
      · have hne : ∀ file ∈ files', w.disk.placeOf (.ofText file.1.text) ≠ q :=
          fun file hfile he => hfiles ⟨file, hfile, he⟩
        rw [Disk.overlay_of_forall_ne hne] at hlater ⊢
        refine .inr ⟨rfl, ?_, t, List.mem_append_left _ ht, hway⟩
        exact hlater.resolve_right fun h => absurd h.1 nofun

/-- Records leave files where there are files, and directories where there are directories. -/
theorem alike (h : w.Follows [] [] v) : w.disk.Alike v.disk where
  here := h.grows.here
  nothing q := by
    refine not_iff_not.mp ⟨fun hq => ?_, h.stays q⟩
    rcases h.comes q hq with hq | ⟨_, hfile, _⟩ | ⟨_, ht, _⟩
    · exact hq
    · exact absurd hfile List.not_mem_nil
    · exact absurd ht List.not_mem_nil
  directory q := by
    refine ⟨fun hq => (h.made q hq).resolve_right ?_, h.grows.directory q⟩
    rintro ⟨_, ht, _⟩
    exact absurd ht List.not_mem_nil

/-- Records leave a file as it is, unless they go to it. -/
theorem find?_eq (h : w.Follows [] [] v) (hq : w.Quiet q) : v.disk.find? q = w.disk.find? q :=
  (h.find? q hq).resolve_right fun ⟨_, _, _, ht, _⟩ => absurd ht List.not_mem_nil

end World.Follows

namespace Run

theorem settled_follows (files : List (Path × Bytes)) (tried : List Path) (w : World) :
    Settled fun v => w.Follows files tried v where
  emit r v h := by
    refine World.emit_induction (P := fun v => w.Follows files tried v)
      (fun v _ _ _ _ h => ⟨h.grows, h.stays, h.comes, h.made, h.quiet, h.find?⟩) ?_ r h
    rintro v place more ⟨s, hs, hplace⟩ h
    have halters := Disk.alters_append (d := v.disk) place more
    refine ⟨h.grows.trans halters.toGrows, fun q hq => ?_, fun q hq => h.comes q ?_,
      fun q hq => h.made q ?_, h.quiet, fun q hq => ?_⟩
    · rcases Disk.find?_append_or v.disk place q more with he | ⟨_, _, -, he⟩
      · exact he ▸ h.stays q hq
      · rw [he]
        exact nofun
    · rcases Disk.find?_append_or v.disk place q more with he | ⟨_, _, he, -⟩
      · exact he ▸ hq
      · rw [he]
        exact nofun
    · rcases Disk.find?_append_or v.disk place q more with he | ⟨_, _, -, he⟩
      · exact he ▸ hq
      · rw [he] at hq
        cases hq
    · have hne : q ≠ place := by
        rintro rfl
        exact h.quiet q hq s hs hplace
      rw [halters.other q (by simpa using hne)]
      exact h.find? q hq
  input _ _ h := ⟨h.grows, h.stays, h.comes, h.made, h.quiet, h.find?⟩
  output _ _ h := ⟨h.grows, h.stays, h.comes, h.made, h.quiet, h.find?⟩

end Run

/-! ## Endings of a writing -/

namespace World

variable {w v : World} {target : Path} {content : Bytes}

theorem Cleared.follows (h : w.Cleared target.parent v) : w.Follows [] [target] v := by
  obtain ⟨hpaved, hv⟩ := h
  refine ⟨hpaved.grows, fun q hq => ?_, fun q hq => ?_, fun q hq => ?_, fun q hq => ?_,
    fun q _ => ?_⟩
  · rcases hpaved.find? q with he | ⟨hnone, -, -⟩
    · rwa [he]
    · exact absurd hnone hq
  · rcases hpaved.find? q with he | ⟨-, -, hway⟩
    · exact .inl (he ▸ hq)
    · exact .inr (.inr ⟨target, List.mem_singleton_self target, hway⟩)
  · rcases hpaved.find? q with he | ⟨-, -, hway⟩
    · exact .inl (he.symm.trans hq)
    · exact .inr ⟨target, List.mem_singleton_self target, hway⟩
  · rw [hv]
    exact hq
  · refine (hpaved.find? q).imp_right ?_
    rintro ⟨hnone, hdirectory, hway⟩
    exact ⟨hnone, hdirectory, target, List.mem_singleton_self target, hway⟩

/-- A file in its place is one more file. -/
theorem Replaced.follows {q : Place} (h : w.Replaced target.text q content v) :
    w.Follows [(target, content)] [] v := by
  have hplace : w.disk.placeOf (.ofText target.text) = q := (Disk.locate_eq_ok h.locate).symm
  refine ⟨h.grows, fun r hr => ?_, fun r hr => ?_, fun r hr => ?_, fun r hr s hs => ?_,
    fun r _ => .inl ?_⟩
  · rw [h.find? r]
    split_ifs
    · exact nofun
    · exact hr
  · rw [h.find? r] at hr
    split_ifs at hr with hrq
    · exact .inr (.inl ⟨_, List.mem_singleton_self _, hplace.trans hrq.symm⟩)
    · exact .inl hr
  · rw [h.find? r] at hr
    split_ifs at hr
    · cases hr
    · exact .inl hr
  · rw [h.eq] at hs
    obtain ⟨t, ht, rfl⟩ := List.mem_map.mp hs
    exact fun htarget => hr t ht (Run.target_of_target_detach htarget)
  · rw [h.find? r]
    simp only [Disk.overlay, List.foldl_cons, List.foldl_nil, hplace, eq_comm]

theorem Placed.follows (h : w.Placed target.parent target content v) :
    w.Follows [(target, content)] [target] v := by
  obtain ⟨u, q, hu, hv⟩ := h
  exact hu.follows.trans hv.follows

end World

end HiveScript
