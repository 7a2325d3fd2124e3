import HiveScript.Proofs.Run.Triple

/-!
# Runs side by side

Two runs from two worlds that are in some relation, which end in the same.

* `Run.Parallel`: such runs, which leave worlds in the relation that they had before.
* **`Parallel.bind`**, `Parallel.tryCatch`: runs one after the other.
* `Parallel.mapM`, `Parallel.foldlM`: the same runs for each of some values.
-/

namespace HiveScript

namespace Run

/-- From worlds in a relation two runs end in the same, and leave worlds in the relation. If they
answer, the answer has `Q`. -/
def Parallel {α : Type} (R : World → World → Prop) (x y : Run α) (Q : α → Prop) : Prop :=
  ∀ w u, R w u → (x.after w).1 = (y.after u).1 ∧ R (x.after w).2 (y.after u).2 ∧
    ∀ a, (x.after w).1 = .ok a → Q a

namespace Parallel

variable {α β : Type} {R : World → World → Prop} {x y : Run α} {Q : α → Prop} {T : β → Prop}

theorem pure {a : α} (ha : Q a) : Parallel R (pure a) (pure a) Q :=
  fun _ _ hR => ⟨rfl, hR, fun _ hb => Except.ok.inj hb ▸ ha⟩

theorem throw {e : Stop} : Parallel R (throw e : Run α) (throw e) Q :=
  fun _ _ hR => ⟨rfl, hR, nofun⟩

theorem ofExcept {r : Except Failure α} (h : ∀ a, r = .ok a → Q a) :
    Parallel R (ofExcept r) (ofExcept r) Q := by
  cases r with
  | ok a => exact pure (h a rfl)
  | error f => exact throw

/-- **One pair of runs after another.** -/
theorem bind {f g : α → Run β} (h : Parallel R x y Q) (hf : ∀ a, Q a → Parallel R (f a) (g a) T) :
    Parallel R (x >>= f) (y >>= g) T := by
  intro w u hR
  have hended := h w u hR
  rw [after_bind, after_bind]
  generalize x.after w = p at hended ⊢
  generalize y.after u = p' at hended ⊢
  obtain ⟨r, v⟩ := p
  obtain ⟨r', v'⟩ := p'
  obtain ⟨rfl, hR', hQ⟩ : r = r' ∧ R v v' ∧ ∀ a, r = .ok a → Q a := hended
  cases r with
  | ok a => exact hf a (hQ a rfl) v v' hR'
  | error e => exact ⟨rfl, hR', nofun⟩

theorem tryCatch {f g : Stop → Run α} (h : Parallel R x y Q) (hf : ∀ e, Parallel R (f e) (g e) Q) :
    Parallel R (tryCatch x f) (tryCatch y g) Q := by
  intro w u hR
  have hended := h w u hR
  rw [after_tryCatch, after_tryCatch]
  generalize x.after w = p at hended ⊢
  generalize y.after u = p' at hended ⊢
  obtain ⟨r, v⟩ := p
  obtain ⟨r', v'⟩ := p'
  obtain ⟨rfl, hR', hQ⟩ : r = r' ∧ R v v' ∧ ∀ a, r = .ok a → Q a := hended
  cases r with
  | ok a => exact ⟨rfl, hR', hQ⟩
  | error e => exact hf e v v' hR'

/-- The same pair of runs for each of some values. -/
theorem mapM {f g : α → Run β} {as : List α} (h : ∀ a ∈ as, Parallel R (f a) (g a) T) :
    Parallel R (as.mapM f) (as.mapM g) fun bs => ∀ b ∈ bs, T b := by
  induction as with
  | nil =>
    rw [List.mapM_nil, List.mapM_nil]
    exact pure fun b hb => absurd hb List.not_mem_nil
  | cons a as ih =>
    rw [List.forall_mem_cons] at h
    rw [List.mapM_cons, List.mapM_cons]
    exact h.1.bind fun b hb => (ih h.2).bind fun bs hbs => pure (List.forall_mem_cons.mpr ⟨hb, hbs⟩)

theorem foldlM {f g : β → α → Run β} {as : List α}
    (h : ∀ a ∈ as, ∀ b, Parallel R (f b a) (g b a) fun _ => True) (b : β) :
    Parallel R (as.foldlM f b) (as.foldlM g b) fun _ => True := by
  induction as generalizing b with
  | nil => exact pure trivial
  | cons a as ih =>
    rw [List.forall_mem_cons] at h
    rw [List.foldlM_cons, List.foldlM_cons]
    exact (h.1 b).bind fun b' _ => ih h.2 b'

end Parallel

end Run

end HiveScript
