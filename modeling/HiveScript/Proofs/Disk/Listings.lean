import HiveScript.Proofs.Disk.Overlays
import Mathlib.Data.List.Nodup

/-!
# Listings of directories

What is told of a directory is the same on all disks that have the same things in it, whatever the
order in which they tell the names.

* `Text.le_trans`, `Text.le_total`, `Text.le_antisymm`: the order of names.
* `Text.eq_of_ascending`: names stand in ascending order in one way.
* `Disk.mem_namesIn`, `Disk.nodup_namesIn`: the names in a directory.
* **`Disk.locate_congr`**: a path leads to the same place on disks that are the same on the way to
  it.
-/

namespace HiveScript

/-! ## Names in their order -/

namespace Text

theorem le_total (s t : Text) : (s.le t || t.le s) = true := by
  induction s generalizing t with
  | nil => rfl
  | cons a s ih =>
    cases t with
    | nil => rfl
    | cons b t =>
      rcases Nat.lt_trichotomy a.val b.val with h | h | h
      · simp [le, h]
      · obtain rfl := Fin.ext h
        simpa [le] using ih t
      · simp [le, h]

theorem le_trans (s t u : Text) (h : s.le t = true) (h' : t.le u = true) : s.le u = true := by
  induction s generalizing t u with
  | nil => rfl
  | cons a s ih =>
    cases t with
    | nil => cases h
    | cons b t =>
      cases u with
      | nil => cases h'
      | cons c u =>
        simp only [le, Bool.or_eq_true, Bool.and_eq_true, decide_eq_true_eq] at h h' ⊢
        rcases h with h | ⟨rfl, h⟩
        · rcases h' with h' | ⟨rfl, -⟩
          · exact .inl (h.trans h')
          · exact .inl h
        · exact h'.imp_right fun ⟨hac, h'⟩ => ⟨hac, ih t u h h'⟩

theorem le_antisymm {s t : Text} (h : s.le t = true) (h' : t.le s = true) : s = t := by
  induction s generalizing t with
  | nil =>
    cases t with
    | nil => rfl
    | cons b t => cases h'
  | cons a s ih =>
    cases t with
    | nil => cases h
    | cons b t =>
      simp only [le, Bool.or_eq_true, Bool.and_eq_true, decide_eq_true_eq] at h h'
      rcases h with h | ⟨rfl, h⟩
      · rcases h' with h' | ⟨rfl, -⟩
        · exact absurd h (Nat.lt_asymm h')
        · exact absurd h (Nat.lt_irrefl _)
      · rw [ih h (h'.resolve_left (Nat.lt_irrefl _)).2]

/-- **Names stand in ascending order in one way.** -/
theorem eq_of_ascending {ns ms : List Text} (hns : ns.Nodup) (hms : ms.Nodup)
    (hns' : ns.Pairwise fun s t => s.le t = true) (hms' : ms.Pairwise fun s t => s.le t = true)
    (h : ∀ n, n ∈ ns ↔ n ∈ ms) : ns = ms :=
  List.Perm.eq_of_pairwise (fun _ _ _ _ => le_antisymm) hns' hms'
    ((List.perm_ext_iff_of_nodup hns hms).mpr h)

end Text

theorem nodup_eraseDups {α : Type} [BEq α] [LawfulBEq α] (as : List α) : as.eraseDups.Nodup := by
  induction hlength : as.length using Nat.strongRecOn generalizing as with
  | ind n ih =>
    cases as with
    | nil => exact List.nodup_nil
    | cons a as =>
      rw [List.eraseDups_cons, List.nodup_cons, List.mem_eraseDups]
      refine ⟨by simp, ih _ ?_ _ rfl⟩
      have hle := List.length_filter_le (fun b => !b == a) as
      rw [← hlength, List.length_cons]
      omega

namespace Disk

variable {d d' : Disk} {p q : Place} {n : Text}

theorem nodup_namesIn (d : Disk) (p : Place) : (d.namesIn p).Nodup := nodup_eraseDups _

theorem mem_namesIn : n ∈ d.namesIn p ↔ d.find? (p ++ [n]) ≠ none := by
  have hnode : d.find? (p ++ [n]) ≠ none ↔ ∃ e ∈ d.nodes, e.1 = p ++ [n] := by
    rw [find?, if_neg (List.append_ne_nil_of_right_ne_nil p (List.cons_ne_nil n [])), ne_eq,
      Option.map_eq_none_iff, List.find?_eq_none]
    simp
  rw [hnode, namesIn, List.mem_eraseDups, List.mem_filterMap]
  refine exists_congr fun e => ?_
  rw [children, List.mem_filter, and_assoc]
  refine and_congr_right fun _ => ?_
  constructor
  · rintro ⟨hin, hlast⟩
    rw [Bool.and_eq_true, decide_eq_true_eq, decide_eq_true_eq] at hin
    rw [← hin.2]
    exact (List.dropLast_append_getLast? n hlast).symm
  · intro he
    simp [he]

/-! ## Ways -/

/-- Names lead to the same place on disks that are the same at the places on the way. -/
theorem walk_congr {ns : List Text}
    (h : ∀ ms, ms <+: ns → d'.find? ((ms.filter Path.isName).foldl Place.enter p) =
      d.find? ((ms.filter Path.isName).foldl Place.enter p)) :
    d'.walk p ns = d.walk p ns := by
  induction ns generalizing p with
  | nil => rfl
  | cons n ns ih =>
    have hrest : ∀ q, ([n].filter Path.isName).foldl Place.enter p = q →
        d'.walk q ns = d.walk q ns := by
      rintro _ rfl
      refine ih fun ms hms => ?_
      have hway := h ([n] ++ ms) ((List.prefix_append_right_inj [n]).mpr hms)
      rwa [List.filter_append, List.foldl_append] at hway
    have hp : d'.find? p = d.find? p := h [] List.nil_prefix
    rw [walk, walk, hp]
    split
    · rfl
    · rfl
    by_cases hname : Path.isName n = true
    · have hkept : [n].filter Path.isName = [n] := List.filter_cons_of_pos hname
      rw [hkept] at hrest
      split_ifs with hno hdots hlong
      · exact absurd hname (by simpa using hno)
      · exact hrest _ (if_pos hdots)
      · rfl
      · exact hrest _ (if_neg hdots)
    · have hdropped : [n].filter Path.isName = [] := List.filter_cons_of_neg hname
      rw [hdropped] at hrest
      rw [if_pos (by simpa using hname), if_pos (by simpa using hname)]
      exact hrest p rfl

/-- **A path leads to the same place on disks that are the same on the way to it.** -/
theorem locate_congr {path : Path} (hpath : path.WellFormed) (hhere : d'.here = d.here)
    (h : ∀ q, d.OnWay path q → d'.find? q = d.find? q) :
    d'.locate path.text = d.locate path.text := by
  have hfields : (path.text.fields (· = slash)).filter Path.isName = path.names :=
    congrArg Path.names (Path.ofText_text hpath)
  have hwalk : ∀ ms, ms <+: path.text.fields (· = slash) →
      d'.find? ((ms.filter Path.isName).foldl Place.enter (d.start path)) =
        d.find? ((ms.filter Path.isName).foldl Place.enter (d.start path)) := by
    intro ms hms
    have hnames : ms.filter Path.isName <+: path.names := hfields ▸ hms.filter Path.isName
    have hway : (⟨path.root, ms.filter Path.isName⟩ : Path).WellFormed :=
      ⟨hpath.root, fun n hn => hpath.names n (hnames.subset hn)⟩
    exact h _ ⟨⟨path.root, ms.filter Path.isName⟩, rfl, hnames, by rw [Path.ofText_text hway]; rfl⟩
  have hstart := start_ofText d path.text
  rw [Path.ofText_text hpath] at hstart
  rw [locate, locate, hhere, ← hstart, walk_congr hwalk]

end Disk

end HiveScript
