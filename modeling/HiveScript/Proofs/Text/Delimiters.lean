import HiveScript.Proofs.Text.Parts
import Mathlib.Data.List.Infix

/-!
# Delimiters

A piece of a text is found again when the first delimiter after it is the one that was written.

* `FirstAfter`: a delimiter begins in a text only where the piece before it ends.
* **`append_inj_of_firstAfter`**: then a text has one such piece.
* `join_inj_of_firstAfter`: pieces with delimiters between them.
* `append_cons_inj_of_not_mem`: a single point, found from the right.
-/

namespace HiveScript.Text

/-- After `a`, the text `d` does not begin before the end of `a`. -/
def FirstAfter (d a : Text) : Prop := ¬ d <:+: a ++ d.dropLast

instance (d a : Text) : Decidable (FirstAfter d a) :=
  inferInstanceAs (Decidable (¬ d <:+: a ++ d.dropLast))

section

variable {d a b x y : Text}

theorem FirstAfter.not_infix (h : FirstAfter d a) : ¬ d <:+: a :=
  fun hd => h (hd.trans (List.prefix_append a d.dropLast).isInfix)

/-- A delimiter that is written further on leaves no room for one that begins before. -/
theorem eq_nil_of_firstAfter {t : Text} (h : FirstAfter d (a ++ t))
    (he : d ++ x = t ++ d ++ y) : t = [] := by
  by_contra ht
  have hlen : d.length ≤ (t ++ d.dropLast).length := by
    have hpos := List.length_pos_iff.mpr ht
    rw [List.length_append, List.length_dropLast]
    omega
  have hleft : d <+: t ++ d ++ y := ⟨x, he⟩
  have hright : t ++ d.dropLast <+: t ++ d ++ y := by
    rw [List.append_assoc, List.prefix_append_right_inj]
    exact (List.dropLast_prefix d).trans (List.prefix_append d y)
  have hpre : d <+: t ++ d.dropLast := List.prefix_of_prefix_length_le hleft hright hlen
  refine h ?_
  rw [List.append_assoc]
  exact hpre.isInfix.trans (List.suffix_append a _).isInfix

/-- **What stands before the first delimiter, and what stands after it.** -/
theorem append_inj_of_firstAfter (ha : FirstAfter d a) (hb : FirstAfter d b)
    (h : a ++ d ++ x = b ++ d ++ y) : a = b ∧ x = y := by
  have hab : a = b := by
    rw [List.append_assoc, List.append_assoc] at h
    -- One of the pieces is the other one and some more, and there is no room for more.
    rcases List.append_eq_append_iff.mp h with ⟨t, rfl, he⟩ | ⟨t, rfl, he⟩
    · rw [← List.append_assoc] at he
      rw [eq_nil_of_firstAfter hb he, List.append_nil]
    · rw [← List.append_assoc] at he
      rw [eq_nil_of_firstAfter ha he, List.append_nil]
  rw [hab] at h
  exact ⟨hab, List.append_cancel_left h⟩

/-- The last point of its kind is found from the right. -/
theorem append_cons_inj_of_not_mem {p : Point} (hx : p ∉ x) (hy : p ∉ y)
    (h : a ++ p :: x = b ++ p :: y) : a = b ∧ x = y := by
  have hrev : x.reverse ++ p :: a.reverse = y.reverse ++ p :: b.reverse := by
    simpa using congrArg List.reverse h
  have hcut := congrArg (cut? p) hrev
  rw [cut?_append_cons (by simpa using hx), cut?_append_cons (by simpa using hy),
    Option.some.injEq, Prod.mk.injEq, List.reverse_inj, List.reverse_inj] at hcut
  exact hcut.symm

end

/-! ## Joined pieces -/

section

variable {sep : Text}

/-- A single piece holds no delimiter, so it is not two pieces. -/
theorem ne_join_cons_cons {w : Text} (h : FirstAfter sep w) (v v' : Text) (vs : List Text) :
    w ≠ join sep (v :: v' :: vs) := by
  rintro rfl
  refine h.not_infix ?_
  rw [join_cons_cons]
  exact ⟨v, _, rfl⟩

theorem join_ne_nil {w : Text} (hw : w ≠ []) (ws : List Text) : join sep (w :: ws) ≠ [] := by
  cases ws with
  | nil => rwa [join]
  | cons v ws =>
    rw [join_cons_cons, List.append_assoc]
    exact List.append_ne_nil_of_left_ne_nil hw _

/-- **Pieces that are not empty are found again between delimiters.** -/
theorem join_inj_of_firstAfter {ws vs : List Text}
    (hws : ∀ w ∈ ws, w ≠ [] ∧ FirstAfter sep w) (hvs : ∀ v ∈ vs, v ≠ [] ∧ FirstAfter sep v)
    (h : join sep ws = join sep vs) : ws = vs := by
  induction ws generalizing vs with
  | nil =>
    cases vs with
    | nil => rfl
    | cons v vs => exact absurd h.symm (join_ne_nil (hvs v List.mem_cons_self).1 vs)
  | cons w ws ih =>
    rw [List.forall_mem_cons] at hws
    match vs, hvs, h with
    | [], _, h => exact absurd h (join_ne_nil hws.1.1 ws)
    | [v], hvs, h =>
      have hv := (hvs v List.mem_cons_self).2
      cases ws with
      | nil =>
        rw [join, join] at h
        rw [h]
      | cons w' ws =>
        rw [join] at h
        exact absurd h.symm (ne_join_cons_cons hv w w' ws)
    | v :: v' :: vs, hvs, h =>
      rw [List.forall_mem_cons] at hvs
      cases ws with
      | nil =>
        rw [join] at h
        exact absurd h (ne_join_cons_cons hws.1.2 v v' vs)
      | cons w' ws =>
        rw [join_cons_cons, join_cons_cons] at h
        obtain ⟨rfl, hrest⟩ := append_inj_of_firstAfter hws.1.2 hvs.1.2 h
        rw [ih hws.2 hvs.2 hrest]

end

end HiveScript.Text
