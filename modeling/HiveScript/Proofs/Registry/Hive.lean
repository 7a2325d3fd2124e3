import HiveScript.Proofs.Text.Parts
import HiveScript.Registry.Hive
import Mathlib.Data.List.Nodup

/-!
# Paths and hives

* **`drivePath?_eq_some_iff`**: a path is on a drive when it begins with the name of the hive, and
  only the name is exchanged for the drive.
* `drivePath?_eq_none_iff`: a path is on no drive when it begins with no name.
* `PrefixFree`, `prefixFree_name`, `prefixFree_drive`: neither a name nor a drive begins another one.
* **`matchIn?_of_perm`**, `drivePath?_inj`: so the order of the hives does not matter, and a drive
  path has one path.
* `firstComponent`, `name_prefix_firstComponent_iff`: a name lies in the first component of a path.
-/

namespace HiveScript.Hive

theorem mem_all (h : Hive) : h ∈ all := by
  cases h <;> decide

/-- No name begins another one, so the order of the hives does not matter. -/
theorem match?_name_append (h : Hive) (suffix : Text) :
    match? (h.name ++ suffix) = some (h, suffix) := by
  cases h <;> rfl

theorem drivePath?_name_append (h : Hive) (suffix : Text) :
    drivePath? (h.name ++ suffix) = some (h.drive ++ suffix) := by
  rw [drivePath?, match?_name_append, Option.map_some]

theorem drivePath?_eq_none_iff {path : Text} :
    drivePath? path = none ↔ ∀ h : Hive, ¬ h.name <+: path := by
  simp only [drivePath?, match?, matchIn?, Option.map_eq_none_iff, List.findSome?_eq_none_iff,
    Text.after?_eq_none_iff]
  exact ⟨fun h hive => h hive (mem_all hive), fun h hive _ => h hive⟩

/-- **Only the name of the hive is exchanged.** -/
theorem drivePath?_eq_some_iff {path drivePath : Text} : drivePath? path = some drivePath ↔
    ∃ (h : Hive) (suffix : Text), path = h.name ++ suffix ∧ drivePath = h.drive ++ suffix := by
  constructor
  · intro hd
    have hn : drivePath? path ≠ none := by rw [hd]; exact Option.some_ne_none _
    rw [ne_eq, drivePath?_eq_none_iff, not_forall_not] at hn
    obtain ⟨h, suffix, rfl⟩ := hn
    rw [drivePath?_name_append, Option.some.injEq] at hd
    exact ⟨h, suffix, rfl, hd.symm⟩
  · rintro ⟨h, suffix, rfl, rfl⟩
    exact drivePath?_name_append h suffix

/-! ## Beginnings -/

/-- What is written at the beginning of a text is found again, and so is the rest. -/
def PrefixFree (f : Hive → Text) : Prop :=
  ∀ h h' s s', f h ++ s = f h' ++ s' → h = h' ∧ s = s'

theorem prefixFree_name : PrefixFree name := by
  intro h h' s s' he
  have hm := congrArg match? he
  rw [match?_name_append, match?_name_append] at hm
  simpa using hm

/-- A drive ends at its colon, and has no other one. -/
theorem cut?_drive_append (h : Hive) (s : Text) :
    Text.cut? (Point.ofChar ':') (h.drive ++ s) = some (h.drive.dropLast, s) := by
  cases h <;> rfl

theorem prefixFree_drive : PrefixFree drive := by
  intro h h' s s' he
  have hcut := congrArg (Text.cut? (Point.ofChar ':')) he
  rw [cut?_drive_append, cut?_drive_append, Option.some.injEq, Prod.mk.injEq] at hcut
  have hn : (all.map fun h => h.drive.dropLast).Nodup := by decide
  exact ⟨List.inj_on_of_nodup_map hn (mem_all h) (mem_all h') hcut.1, hcut.2⟩

/-! ## Orders of the hives -/

/-- Of all hives only one can be matched, wherever it stands. -/
theorem matchIn?_eq_some_iff {hives : List Hive} {path suffix : Text} {h : Hive} :
    matchIn? hives path = some (h, suffix) ↔ h ∈ hives ∧ path = h.name ++ suffix := by
  have hfound : ∀ {m : Hive × Text}, matchIn? hives path = some m →
      m.1 ∈ hives ∧ path = m.1.name ++ m.2 := by
    intro m hm
    obtain ⟨h', hmem, hmap⟩ := List.exists_of_findSome?_eq_some hm
    obtain ⟨suffix', hafter, rfl⟩ := Option.map_eq_some_iff.mp hmap
    exact ⟨hmem, Text.after?_eq_some_iff.mp hafter⟩
  refine ⟨hfound, ?_⟩
  rintro ⟨hmem, hpath⟩
  cases hm : matchIn? hives path with
  | none =>
    have hnone := List.findSome?_eq_none_iff.mp hm h hmem
    rw [hpath, Text.after?_append] at hnone
    cases hnone
  | some m =>
    obtain ⟨rfl, rfl⟩ := prefixFree_name m.1 h m.2 suffix ((hfound hm).2.symm.trans hpath)
    rfl

/-- **The hives may be tried in any order.** -/
theorem matchIn?_of_perm {hives : List Hive} (hp : hives.Perm all) (path : Text) :
    matchIn? hives path = match? path := by
  ext ⟨h, suffix⟩
  rw [match?, matchIn?_eq_some_iff, matchIn?_eq_some_iff, hp.mem_iff]

theorem drivePath?_inj {path path' drivePath : Text} (h : drivePath? path = some drivePath)
    (h' : drivePath? path' = some drivePath) : path = path' := by
  obtain ⟨hive, suffix, rfl, rfl⟩ := drivePath?_eq_some_iff.mp h
  obtain ⟨hive', suffix', rfl, he⟩ := drivePath?_eq_some_iff.mp h'
  obtain ⟨rfl, rfl⟩ := prefixFree_drive _ _ _ _ he
  rfl

/-! ## Components -/

/-- A path up to its first backslash. -/
def firstComponent (path : Text) : Text := path.takeWhile (· ≠ Point.backslash)

theorem backslash_notMem_name (h : Hive) : Point.backslash ∉ h.name := by
  cases h <;> decide

/-- A name has no backslash, so the one that a path begins with lies in its first component. -/
theorem name_prefix_firstComponent_iff {h : Hive} {path : Text} :
    h.name <+: firstComponent path ↔ h.name <+: path := by
  refine ⟨fun hp => hp.trans (List.takeWhile_prefix _), ?_⟩
  rintro ⟨suffix, rfl⟩
  rw [firstComponent, List.takeWhile_append_of_pos]
  · exact List.prefix_append _ _
  · intro p hp
    simpa using fun he : p = Point.backslash => backslash_notMem_name h (he ▸ hp)

end HiveScript.Hive
