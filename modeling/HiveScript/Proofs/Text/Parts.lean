import HiveScript.Text.Blank
import Mathlib.Data.List.Basic
import Mathlib.Data.List.DropRight
import Mathlib.Data.List.TakeWhile

/-!
# Parts of texts

What the readers of a text find, said by concatenation.

* `after?_eq_some_iff`, `after?_eq_none_iff`, `beginsWith_iff`: beginnings are prefixes.
* **`cut?_eq_some_iff`**: a cut is the one at the first place of its point.
* `fields_append_cons`, `exists_fields_append`: a field ends at the first separator, and what has
  none stays together at the end.
* `length_fields`: there is one more piece than there are separators.
* `fields_join`, `join_fields`, `filter_join`: pieces with separators between them, cut apart and
  run together.
* `flatten_fields`, `count_join`, `join_filter_sublist`: what cutting and joining leave of a text.
* `trimBy_eq_self`, `trimBy_append_of_forall`, `mem_of_mem_trimBy`: what is trimmed, what is not,
  and that nothing is added.
* `takeWhile_append_trimBy_append`, `trimBy_append`: the ends of a text around what is left of it,
  and a beginning that stays.
-/

namespace HiveScript.Text

/-! ## Beginnings -/

theorem after?_append (lead s : Text) : after? lead (lead ++ s) = some s := by
  induction lead with
  | nil => cases s <;> rfl
  | cons a lead ih => rw [List.cons_append, after?, if_pos rfl, ih]

theorem after?_eq_some_iff {lead s rest : Text} : after? lead s = some rest ↔ s = lead ++ rest := by
  constructor
  · intro h
    induction lead generalizing s with
    | nil => cases s <;> simpa [after?] using h
    | cons a lead ih =>
      cases s with
      | nil => simp [after?] at h
      | cons b s =>
        rw [after?] at h
        split_ifs at h with hab
        rw [hab, ih h, List.cons_append]
  · rintro rfl
    exact after?_append lead rest

theorem after?_eq_none_iff {lead s : Text} : after? lead s = none ↔ ¬ lead <+: s := by
  rw [Option.eq_none_iff_forall_ne_some]
  exact ⟨fun h ⟨t, ht⟩ => h t (after?_eq_some_iff.mpr ht.symm),
    fun h t ht => h ⟨t, (after?_eq_some_iff.mp ht).symm⟩⟩

theorem beginsWith_iff {lead s : Text} : beginsWith lead s = true ↔ lead <+: s := by
  rw [beginsWith, Option.isSome_iff_ne_none, Ne, after?_eq_none_iff, not_not]

/-! ## Cuts -/

theorem cut?_append_cons {p : Point} {a : Text} (ha : p ∉ a) (b : Text) :
    cut? p (a ++ p :: b) = some (a, b) := by
  induction a with
  | nil => rw [List.nil_append, cut?, if_pos rfl]
  | cons q a ih =>
    rw [List.mem_cons, not_or] at ha
    rw [List.cons_append, cut?, if_neg (Ne.symm ha.1), ih ha.2]
    rfl

theorem cut?_eq_none_iff {p : Point} {s : Text} : cut? p s = none ↔ p ∉ s := by
  induction s with
  | nil => simp [cut?]
  | cons q s ih =>
    rw [cut?, List.mem_cons, not_or, ← ih]
    split_ifs with h
    · simp [h]
    · simp [Ne.symm h]

/-- **A cut is the one at the first place of its point.** -/
theorem cut?_eq_some_iff {p : Point} {s a b : Text} :
    cut? p s = some (a, b) ↔ s = a ++ p :: b ∧ p ∉ a := by
  constructor
  · intro h
    induction s generalizing a with
    | nil => simp [cut?] at h
    | cons q s ih =>
      rw [cut?] at h
      split_ifs at h with hq
      · obtain ⟨rfl, rfl⟩ : [] = a ∧ s = b := by simpa using h
        exact ⟨by rw [hq, List.nil_append], List.not_mem_nil⟩
      · obtain ⟨⟨a', b'⟩, h', e⟩ := Option.map_eq_some_iff.mp h
        obtain ⟨rfl, rfl⟩ : q :: a' = a ∧ b' = b := by simpa using e
        obtain ⟨rfl, ha⟩ := ih h'
        exact ⟨rfl, by simp [Ne.symm hq, ha]⟩
  · rintro ⟨rfl, ha⟩
    exact cut?_append_cons ha b

/-! ## Fields -/

theorem fields_cons_of_sep {sep : Point → Bool} {q : Point} (hq : sep q = true) (s : Text) :
    fields sep (q :: s) = [] :: fields sep s := if_pos hq

/-- Each point of the class parts two pieces. -/
theorem length_fields (sep : Point → Bool) (s : Text) :
    (s.fields sep).length = s.countP sep + 1 := by
  induction s with
  | nil => rfl
  | cons p s ih =>
    by_cases hp : sep p = true
    · rw [fields_cons_of_sep hp, List.length_cons, ih, List.countP_cons_of_pos hp]
    · obtain ⟨w, ws, hws⟩ : ∃ w ws, fields sep s = w :: ws :=
        List.exists_cons_of_length_eq_add_one ih
      rw [List.countP_cons_of_neg hp, ← ih, fields, if_neg hp, hws]
      rfl

theorem exists_fields_eq_cons (sep : Point → Bool) (s : Text) : ∃ w ws, fields sep s = w :: ws :=
  List.exists_cons_of_length_eq_add_one (length_fields sep s)

theorem fields_of_forall {sep : Point → Bool} {w : Text} (hw : ∀ p ∈ w, sep p = false) :
    fields sep w = [w] := by
  induction w with
  | nil => rfl
  | cons p w ih =>
    rw [List.forall_mem_cons] at hw
    rw [fields, if_neg (by simp [hw.1]), ih hw.2, consFirst]

theorem fields_append_cons {sep : Point → Bool} {w : Text} (hw : ∀ p ∈ w, sep p = false) {q : Point}
    (hq : sep q = true) (s : Text) : fields sep (w ++ q :: s) = w :: fields sep s := by
  induction w with
  | nil => exact fields_cons_of_sep hq s
  | cons p w ih =>
    rw [List.forall_mem_cons] at hw
    rw [List.cons_append, fields, if_neg (by simp [hw.1]), ih hw.2, consFirst]

theorem join_cons_cons (sep w v : Text) (ws : List Text) :
    join sep (w :: v :: ws) = w ++ sep ++ join sep (v :: ws) := by
  rw [join]
  exact List.cons_ne_nil v ws

/-- The fields between separators that are written between pieces are the pieces. -/
theorem fields_join {sep : Point → Bool} {q : Point} (hq : sep q = true) :
    ∀ {ws : List Text}, ws ≠ [] → (∀ w ∈ ws, ∀ p ∈ w, sep p = false) →
      fields sep (join [q] ws) = ws
  | [w], _, h => by rw [join, fields_of_forall (h w (by simp))]
  | w :: v :: ws, _, h => by
    rw [List.forall_mem_cons] at h
    rw [join_cons_cons, List.append_assoc, List.singleton_append, fields_append_cons h.1 hq,
      fields_join hq (by simp) h.2]

/-- The fields of pieces that each end with a separator are the pieces and an empty one. -/
theorem fields_flatMap {sep : Point → Bool} {q : Point} (hq : sep q = true) (s : Text) :
    ∀ {ws : List Text}, (∀ w ∈ ws, ∀ p ∈ w, sep p = false) →
      fields sep (ws.flatMap (· ++ [q]) ++ s) = ws ++ fields sep s
  | [], _ => rfl
  | w :: ws, h => by
    rw [List.forall_mem_cons] at h
    rw [List.flatMap_cons, List.append_assoc, List.append_assoc, List.singleton_append,
      fields_append_cons h.1 hq, fields_flatMap hq s h.2, List.cons_append]

theorem flatten_consFirst (p : Point) (ws : List Text) :
    (consFirst p ws).flatten = p :: ws.flatten := by
  cases ws <;> rfl

/-- Cutting a text takes the separators from it and nothing else. -/
theorem flatten_fields (sep : Point → Bool) (s : Text) :
    (fields sep s).flatten = s.filter fun p => !sep p := by
  induction s with
  | nil => rfl
  | cons p s ih =>
    rw [fields]
    split_ifs with hp
    · rw [List.flatten_cons, List.nil_append, ih, List.filter_cons_of_neg (by simp [hp])]
    · rw [flatten_consFirst, ih, List.filter_cons_of_pos (by simp [hp])]

theorem sep_eq_false_of_mem_fields {sep : Point → Bool} {s w : Text} {p : Point}
    (hw : w ∈ fields sep s) (hp : p ∈ w) : sep p = false := by
  have h : p ∈ (fields sep s).flatten := List.mem_flatten.mpr ⟨w, hw, hp⟩
  rw [flatten_fields] at h
  simpa using (List.mem_filter.mp h).2

/-- What is written at the end without a separator ends the last field. -/
theorem exists_fields_append {sep : Point → Bool} {t : Text} (ht : ∀ p ∈ t, sep p = false)
    (s : Text) : ∃ ws w, fields sep (s ++ t) = ws ++ [w ++ t] := by
  induction s with
  | nil => exact ⟨[], [], fields_of_forall ht⟩
  | cons p s ih =>
    obtain ⟨ws, w, h⟩ := ih
    rw [List.cons_append, fields, h]
    split_ifs with hp
    · exact ⟨[] :: ws, w, rfl⟩
    · cases ws with
      | nil => exact ⟨[], p :: w, rfl⟩
      | cons v ws => exact ⟨(p :: v) :: ws, w, rfl⟩

/-! ## Joined pieces -/

theorem mem_join {q p : Point} :
    ∀ {ws : List Text}, p ∈ join [q] ws → p = q ∨ ∃ w ∈ ws, p ∈ w
  | [w], h => .inr ⟨w, by simp, h⟩
  | w :: v :: ws, h => by
    rw [join_cons_cons, List.append_assoc, List.mem_append, List.mem_append,
      List.mem_singleton] at h
    rcases h with h | h | h
    · exact .inr ⟨w, by simp, h⟩
    · exact .inl h
    · refine (mem_join h).imp_right ?_
      rintro ⟨u, hu, hp⟩
      exact ⟨u, List.mem_cons_of_mem w hu, hp⟩

theorem count_join {sep : Text} {p : Point} (hp : p ∉ sep) :
    ∀ ws : List Text, (join sep ws).count p = ws.flatten.count p
  | [] => rfl
  | [w] => by rw [join, List.flatten_singleton]
  | w :: v :: ws => by
    rw [join_cons_cons, List.count_append, List.count_append, List.count_eq_zero_of_not_mem hp,
      count_join hp (v :: ws), Nat.add_zero, ← List.count_append]
    rfl

/-- Without the points between them, pieces stand one after the other. -/
theorem join_consFirst (sep : Text) (p : Point) (ws : List Text) :
    join sep (consFirst p ws) = p :: join sep ws := by
  match ws with
  | [] => rfl
  | [w] => rfl
  | w :: v :: ws => rfl

/-- Cutting a text at its separators can be undone. -/
theorem join_fields (q : Point) (s : Text) : join [q] (fields (· = q) s) = s := by
  induction s with
  | nil => rfl
  | cons p s ih =>
    by_cases hp : p = q
    · subst hp
      obtain ⟨w, ws, hws⟩ := exists_fields_eq_cons (· = p) s
      rw [fields_cons_of_sep (decide_eq_true rfl), hws, join_cons_cons, ← hws, ih]
      rfl
    · rw [fields, if_neg (by simpa using hp), join_consFirst, ih]

/-- Some of the pieces with separators between them are a part of all of them. -/
theorem join_filter_sublist (sep : Text) (f : Text → Bool) (ws : List Text) :
    List.Sublist (join sep (ws.filter f)) (join sep ws) := by
  have hrest : ∀ w vs, List.Sublist (join sep vs) (join sep (w :: vs)) := by
    intro w vs
    cases vs with
    | nil => exact List.nil_sublist _
    | cons v vs =>
      rw [join_cons_cons]
      exact List.sublist_append_right _ _
  induction ws with
  | nil => exact List.nil_sublist _
  | cons w ws ih =>
    by_cases hw : f w = true
    · rw [List.filter_cons_of_pos hw]
      cases ws with
      | nil => exact .refl _
      | cons v ws =>
        rw [join_cons_cons]
        cases hfilter : (v :: ws).filter f with
        | nil =>
          rw [List.append_assoc]
          exact List.sublist_append_left _ _
        | cons u us =>
          rw [hfilter] at ih
          rw [join_cons_cons]
          exact ih.append_left _
    · rw [List.filter_cons_of_neg hw]
      exact ih.trans (hrest w ws)

theorem filter_join {q : Point} : ∀ {ws : List Text}, (∀ w ∈ ws, q ∉ w) →
    (join [q] ws).filter (· ≠ q) = ws.flatten
  | [], _ => rfl
  | [w], h => by
    have hw : ∀ p ∈ w, p ≠ q := fun p hp e => h w (by simp) (e ▸ hp)
    rw [join, List.flatten_singleton, List.filter_eq_self.mpr (by simpa using hw)]
  | w :: v :: ws, h => by
    rw [List.forall_mem_cons] at h
    have hw : ∀ p ∈ w, p ≠ q := fun p hp e => h.1 (e ▸ hp)
    rw [join_cons_cons, List.filter_append, List.filter_append, filter_join h.2, List.flatten_cons,
      List.filter_eq_self.mpr (by simpa using hw)]
    simp

/-! ## Trimming -/

theorem dropWhile_eq_self {cls : Point → Bool} {s : Text} (h : ∀ p ∈ s.head?, cls p = false) :
    s.dropWhile cls = s := by
  cases s with
  | nil => rfl
  | cons p s => exact List.dropWhile_cons_of_neg (by simp [h p rfl])

theorem trimBy_eq_self {cls : Point → Bool} {s : Text} (hl : ∀ p ∈ s.head?, cls p = false)
    (hr : ∀ p ∈ s.getLast?, cls p = false) : s.trimBy cls = s := by
  rw [trimBy, dropWhile_eq_self hl, dropWhile_eq_self (by rwa [List.head?_reverse]),
    List.reverse_reverse]

/-- What a class takes off the end may as well not have been there. -/
theorem trimBy_append_of_forall {cls : Point → Bool} {t : Text} (ht : ∀ p ∈ t, cls p = true)
    (s : Text) : (s ++ t).trimBy cls = s.trimBy cls := by
  have ht' : t.dropWhile cls = [] := List.dropWhile_eq_nil_iff.mpr ht
  have hr : ∀ u : Text, (u ++ t).reverse.dropWhile cls = u.reverse.dropWhile cls := by
    intro u
    have htr : t.reverse.dropWhile cls = [] :=
      List.dropWhile_eq_nil_iff.mpr fun p hp => ht p (List.mem_reverse.mp hp)
    rw [List.reverse_append, List.dropWhile_append, htr]
    rfl
  rw [trimBy, List.dropWhile_append, ht']
  split_ifs with hs
  · rw [trimBy, List.isEmpty_iff.mp hs]
  · rw [hr, trimBy]

/-- Nor what it takes off the beginning. -/
theorem trimBy_append_of_forall_left {cls : Point → Bool} {t : Text} (ht : ∀ p ∈ t, cls p = true)
    (s : Text) : (t ++ s).trimBy cls = s.trimBy cls := by
  rw [trimBy, List.dropWhile_append_of_pos ht, trimBy]

theorem mem_of_mem_trimBy {cls : Point → Bool} {s : Text} {p : Point} (h : p ∈ s.trimBy cls) :
    p ∈ s := by
  rw [trimBy, List.mem_reverse] at h
  have h' := (List.dropWhile_suffix cls).mem h
  rw [List.mem_reverse] at h'
  exact (List.dropWhile_suffix cls).mem h'

theorem length_trimBy_le (cls : Point → Bool) (s : Text) : (s.trimBy cls).length ≤ s.length := by
  rw [trimBy, List.length_reverse]
  refine Nat.le_trans (List.dropWhile_suffix cls).length_le ?_
  rw [List.length_reverse]
  exact (List.dropWhile_suffix cls).length_le

section Ends

variable {cls : Point → Bool} {a s : Text} {p : Point}

theorem trimBy_eq_rdropWhile (cls : Point → Bool) (s : Text) :
    s.trimBy cls = (s.dropWhile cls).rdropWhile cls := rfl

theorem takeWhile_append_trimBy_append (cls : Point → Bool) (s : Text) :
    s.takeWhile cls ++ s.trimBy cls ++ (s.dropWhile cls).rtakeWhile cls = s := by
  rw [List.append_assoc, trimBy_eq_rdropWhile, List.rdropWhile_append_rtakeWhile,
    List.takeWhile_append_dropWhile]

theorem trimBy_eq_nil_iff : s.trimBy cls = [] ↔ ∀ p ∈ s, cls p = true := by
  constructor
  · intro h p hp
    rw [← takeWhile_append_trimBy_append cls s, h, List.append_nil, List.mem_append] at hp
    rcases hp with hp | hp
    · exact List.mem_takeWhile_imp hp
    · exact List.mem_rtakeWhile_imp hp
  · exact fun h => trimBy_append_of_forall h []

theorem eq_false_of_mem_head?_trimBy (h : p ∈ (s.trimBy cls).head?) : cls p = false := by
  obtain ⟨t, ht⟩ := List.head?_eq_some_iff.mp h
  obtain ⟨e, he⟩ := List.rdropWhile_prefix cls (l := s.dropWhile cls)
  have hhead := List.head?_dropWhile_not cls s
  rwa [← he, ← trimBy_eq_rdropWhile, ht] at hhead

theorem eq_false_of_mem_getLast?_trimBy (h : p ∈ (s.trimBy cls).getLast?) : cls p = false := by
  rw [trimBy, List.getLast?_reverse] at h
  have hhead := List.head?_dropWhile_not cls (s.dropWhile cls).reverse
  rwa [Option.mem_def.mp h] at hhead

/-- Nothing before a point outside of the class is taken off the end. -/
theorem rdropWhile_append (ha : ∀ p ∈ a, cls p = false) (s : Text) :
    (a ++ s).rdropWhile cls = a ++ s.rdropWhile cls := by
  induction s using List.reverseRecOn with
  | nil =>
    rw [List.append_nil, List.rdropWhile_nil, List.append_nil, List.rdropWhile_eq_self_iff]
    intro hne
    simp [ha _ (List.getLast_mem hne)]
  | append_singleton s p ih =>
    rw [← List.append_assoc, List.rdropWhile_concat, List.rdropWhile_concat, ih]
    split_ifs
    · rfl
    · exact List.append_assoc a s [p]

theorem trimBy_append (ha : ∀ p ∈ a, cls p = false) (hne : a ≠ []) (s : Text) :
    (a ++ s).trimBy cls = a ++ s.rdropWhile cls := by
  cases a with
  | nil => exact absurd rfl hne
  | cons q a =>
    rw [trimBy_eq_rdropWhile, List.cons_append,
      List.dropWhile_cons_of_neg (by simp [ha q List.mem_cons_self]), ← List.cons_append,
      rdropWhile_append ha]

/-- Only the end is taken off what does not begin with the class, and off what has nothing else. -/
theorem trimBy_eq_rdropWhile_of (h : (∀ p ∈ s.head?, cls p = false) ∨ ∀ p ∈ s, cls p = true) :
    s.trimBy cls = s.rdropWhile cls := by
  rw [trimBy_eq_rdropWhile]
  rcases h with h | h
  · rw [dropWhile_eq_self h]
  · rw [List.dropWhile_eq_nil_iff.mpr h, List.rdropWhile_nil, List.rdropWhile_eq_nil_iff.mpr h]

/-- The beginning stays when the end is taken off, unless nothing does. -/
theorem head?_rdropWhile (h : ∃ p ∈ s, cls p = false) :
    (s.rdropWhile cls).head? = s.head? := by
  obtain ⟨t, ht⟩ := List.rdropWhile_prefix cls (l := s)
  have hne : s.rdropWhile cls ≠ [] := by
    rw [Ne, List.rdropWhile_eq_nil_iff]
    obtain ⟨p, hp, hcls⟩ := h
    intro hall
    rw [hall p hp] at hcls
    cases hcls
  conv_rhs => rw [← ht]
  exact (List.head?_append_of_ne_nil _ hne).symm

end Ends

end HiveScript.Text
