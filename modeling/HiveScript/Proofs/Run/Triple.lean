import HiveScript.Run.World
import Mathlib.Logic.Basic

/-!
# Triples

What holds of a world before a run, what then holds of its answer or of its stop, and of the world
that it leaves.

* `Run.after`: what a run ends in, and the world that it leaves.
* `Run.Triple`: a condition before, one for an answer and one for a stop.
* **`Triple.bind`**, **`Triple.tryCatch`**: runs one after the other.
* `Run.Answers`: what holds of an answer, whatever the worlds.
* `Run.Keeps`: a condition that holds before holds after, however the run ends.
-/

namespace HiveScript.Run

variable {α β : Type}

/-- What a run ends in, and the world that it leaves. -/
def after (x : Run α) (w : World) : Except Stop α × World := x.run.run w

/-! ## Answers and worlds -/

theorem after_bind (x : Run α) (f : α → Run β) (w : World) :
    (x >>= f).after w =
      match x.after w with
      | (.ok a, v) => (f a).after v
      | (.error e, v) => (.error e, v) := by
  change (ExceptT.bindCont f (x.after w).1) (x.after w).2 = _
  obtain ⟨_ | _, v⟩ := x.after w <;> rfl

theorem after_get_bind (f : World → Run α) (w : World) : (get >>= f).after w = (f w).after w := rfl

theorem after_tryCatch (x : Run α) (f : Stop → Run α) (w : World) :
    (tryCatch x f).after w =
      match x.after w with
      | (.ok a, v) => (.ok a, v)
      | (.error e, v) => (f e).after v := by
  change after (ExceptT.tryCatch x f) w = _
  unfold ExceptT.tryCatch after
  simp only [ExceptT.run, ExceptT.mk]
  generalize hx : StateT.run (m := Id) x w = r
  simp only [StateT.run_bind, hx]
  obtain ⟨_ | _, v⟩ := r <;> rfl

/-! ## Triples -/

/-- A condition on what a run ended in: one for an answer and one for a stop. -/
def Ended (Q : α → World → Prop) (E : Stop → World → Prop) : Except Stop α × World → Prop
  | (.ok a, w) => Q a w
  | (.error e, w) => E e w

/-- From a world with `P` a run ends in an answer with `Q` or in a stop with `E`. -/
def Triple (P : World → Prop) (x : Run α) (Q : α → World → Prop) (E : Stop → World → Prop) : Prop :=
  ∀ w, P w → Ended Q E (x.after w)

namespace Triple

variable {P P' : World → Prop} {Q Q' : α → World → Prop} {R : β → World → Prop}
  {E E' F : Stop → World → Prop} {x : Run α}

theorem ok (h : Triple P x Q E) {w v : World} {a : α} (hw : P w) (hx : x.after w = (.ok a, v)) :
    Q a v := by
  have hended := h w hw
  rwa [hx] at hended

/-- A run that does not stop answers. -/
theorem exists_answer (h : Triple P x Q fun _ _ => False) {w : World} (hw : P w) :
    ∃ a v, x.after w = (.ok a, v) ∧ Q a v := by
  have hended := h w hw
  cases hx : x.after w with
  | mk r v =>
    rw [hx] at hended
    cases r with
    | ok a => exact ⟨a, v, rfl, hended⟩
    | error e => exact hended.elim

theorem mono (h : Triple P x Q E) (hP : ∀ w, P' w → P w) (hQ : ∀ a w, Q a w → Q' a w)
    (hE : ∀ e w, E e w → E' e w) : Triple P' x Q' E' := by
  intro w hw
  have hended := h w (hP w hw)
  cases hx : x.after w with
  | mk r v =>
    rw [hx] at hended
    cases r with
    | ok a => exact hQ a v hended
    | error e => exact hE e v hended

theorem mono_before (h : Triple P x Q E) (hP : ∀ w, P' w → P w) : Triple P' x Q E :=
  h.mono hP (fun _ _ h => h) fun _ _ h => h

theorem mono_answer (h : Triple P x Q E) (hQ : ∀ a w, Q a w → Q' a w) : Triple P x Q' E :=
  h.mono (fun _ h => h) hQ fun _ _ h => h

theorem mono_stop (h : Triple P x Q E) (hE : ∀ e w, E e w → E' e w) : Triple P x Q E' :=
  h.mono (fun _ h => h) (fun _ _ h => h) hE

theorem and (h : Triple P x Q E) (h' : Triple P' x Q' E') :
    Triple (fun w => P w ∧ P' w) x (fun a w => Q a w ∧ Q' a w) fun e w => E e w ∧ E' e w := by
  intro w hw
  have hended := h w hw.1
  have hended' := h' w hw.2
  cases hx : x.after w with
  | mk r v =>
    rw [hx] at hended hended'
    cases r with
    | ok a => exact ⟨hended, hended'⟩
    | error e => exact ⟨hended, hended'⟩

/-- A run with a triple of its own that keeps some other conditions. -/
theorem and_forall {ι : Type} {I : ι → Prop} {K : ι → World → Prop} (h : Triple P x Q E)
    (hkeeps : ∀ i, I i → Triple (K i) x (fun _ => K i) fun _ _ => True) :
    Triple (fun w => P w ∧ ∀ i, I i → K i w) x (fun a w => Q a w ∧ ∀ i, I i → K i w) E := by
  intro w hw
  have hended := h w hw.1
  cases hx : x.after w with
  | mk r v =>
    rw [hx] at hended
    cases r with
    | ok a => exact ⟨hended, fun i hi => (hkeeps i hi).ok (hw.2 i hi) hx⟩
    | error e => exact hended

/-- What is known of a run from one world, and that this is how it ends. -/
theorem and_after {w : World} (h : Triple (fun v => v = w) x Q E) :
    Triple (fun v => v = w) x (fun a v => Q a v ∧ x.after w = (.ok a, v))
      fun e v => E e v ∧ x.after w = (.error e, v) := by
  rintro v rfl
  have hended := h v rfl
  cases hx : x.after v with
  | mk r u =>
    rw [hx] at hended
    cases r with
    | ok a => exact ⟨hended, rfl⟩
    | error e => exact ⟨hended, rfl⟩

/-- What does not depend on the world. -/
theorem const (x : Run α) (φ : Prop) : Triple (fun _ => φ) x (fun _ _ => φ) fun _ _ => φ := by
  intro w hw
  cases x.after w with
  | mk r v => cases r <;> exact hw

theorem pure {a : α} (h : ∀ w, P w → Q a w) : Triple P (pure a) Q E := h

theorem throw {e : Stop} (h : ∀ w, P w → E e w) : Triple P (throw e : Run α) Q E := h

theorem get : Triple P get (fun a w => a = w ∧ P w) E := fun _ hw => ⟨rfl, hw⟩

theorem set {v : World} {R : PUnit → World → Prop} (h : ∀ w, P w → R ⟨⟩ v) :
    Triple P (set v) R E := h

theorem modify {f : World → World} {R : PUnit → World → Prop} (h : ∀ w, P w → R ⟨⟩ (f w)) :
    Triple P (modify f) R E := h

/-- **One run after another.** -/
theorem bind {f : α → Run β} (hx : Triple P x Q E) (hf : ∀ a, Triple (Q a) (f a) R E) :
    Triple P (x >>= f) R E := by
  intro w hw
  have hended := hx w hw
  rw [after_bind]
  cases hr : x.after w with
  | mk r v =>
    rw [hr] at hended
    cases r with
    | ok a => exact hf a v hended
    | error e => exact hended

/-- **A run, and another one if it stops.** -/
theorem tryCatch {f : Stop → Run α} (hx : Triple P x Q F) (hf : ∀ e, Triple (F e) (f e) Q E) :
    Triple P (tryCatch x f) Q E := by
  intro w hw
  have hended := hx w hw
  rw [after_tryCatch]
  cases hr : x.after w with
  | mk r v =>
    rw [hr] at hended
    cases r with
    | ok a => exact hended
    | error e => exact hf e v hended

theorem ofExcept {r : Except Failure α} (hok : ∀ a, r = .ok a → ∀ w, P w → Q a w)
    (herror : ∀ f, r = .error f → ∀ w, P w → E (.failure f) w) : Triple P (ofExcept r) Q E := by
  cases r with
  | ok a => exact hok a rfl
  | error f => exact herror f rfl

/-- The same run for each of some values. -/
theorem mapM {f : α → Run β} {as : List α} {S : β → Prop}
    (h : ∀ a ∈ as, Triple P (f a) (fun b w => S b ∧ P w) E) :
    Triple P (as.mapM f) (fun bs w => bs.length = as.length ∧ (∀ b ∈ bs, S b) ∧ P w) E := by
  induction as with
  | nil =>
    rw [List.mapM_nil]
    exact pure fun w hw => ⟨rfl, fun b hb => absurd hb List.not_mem_nil, hw⟩
  | cons a as ih =>
    rw [List.forall_mem_cons] at h
    rw [List.mapM_cons]
    refine h.1.bind fun b => ?_
    intro w hw
    refine ((ih h.2).bind fun bs => pure fun v hv => ?_) w hw.2
    obtain ⟨hlength, hall, hv⟩ := hv
    exact ⟨congrArg (· + 1) hlength, List.forall_mem_cons.mpr ⟨hw.1, hall⟩, hv⟩

/-- The same check of each of some values. -/
theorem forM {f : α → Run PUnit} {as : List α} {S : α → Prop}
    (h : ∀ a ∈ as, Triple P (f a) (fun _ w => S a ∧ P w) E) :
    Triple P (as.forM f) (fun _ w => (∀ a ∈ as, S a) ∧ P w) E := by
  induction as with
  | nil => exact pure fun w hw => ⟨fun a ha => absurd ha List.not_mem_nil, hw⟩
  | cons a as ih =>
    rw [List.forall_mem_cons] at h
    refine Triple.bind h.1 fun _ => ?_
    intro w hw
    refine ((ih h.2).mono_answer ?_) w hw.2
    exact fun _ v hv => ⟨List.forall_mem_cons.mpr ⟨hw.1, hv.1⟩, hv.2⟩

end Triple

/-! ## Answers -/

/-- If a run answers, its answer has `Q`. -/
def Answers (x : Run α) (Q : α → Prop) : Prop :=
  Triple (fun _ => True) x (fun a _ => Q a) fun _ _ => True

namespace Answers

variable {x : Run α} {Q : α → Prop} {R : β → Prop}

theorem of_after (h : Answers x Q) {w v : World} {a : α} (hx : x.after w = (.ok a, v)) : Q a :=
  Triple.ok h True.intro hx

theorem mono {Q' : α → Prop} (h : Answers x Q) (hQ : ∀ a, Q a → Q' a) : Answers x Q' :=
  Triple.mono_answer h fun a _ => hQ a

theorem any (x : Run α) : Answers x fun _ => True := Triple.const x True

theorem pure {a : α} (h : Q a) : Answers (pure a) Q := Triple.pure fun _ _ => h

theorem throw {e : Stop} : Answers (throw e : Run α) Q := Triple.throw fun _ _ => True.intro

theorem ofExcept {r : Except Failure α} (h : ∀ a, r = .ok a → Q a) : Answers (ofExcept r) Q :=
  Triple.ofExcept (fun a hr _ _ => h a hr) fun _ _ _ _ => True.intro

theorem bind {f : α → Run β} (hx : Answers x Q) (hf : ∀ a, Q a → Answers (f a) R) :
    Answers (x >>= f) R :=
  Triple.bind hx fun a w ha => hf a ha w True.intro

/-- A run that is left out unless there is need for it, and another one. -/
theorem optional {c φ : Prop} [Decidable c] {x : Run PUnit} {f : PUnit → Run β}
    (hx : c → Answers x fun _ => φ) (hc : ¬ c → φ) (hf : ∀ u, φ → Answers (f u) R) :
    Answers (if c then x >>= f else f ⟨⟩) R := by
  by_cases h : c
  · rw [if_pos h]
    exact (hx h).bind hf
  · rw [if_neg h]
    exact hf ⟨⟩ (hc h)

end Answers

/-! ## Conditions that are kept -/

/-- A condition that holds before a run holds after it; the run may stop for reasons in `S` only. -/
def Keeps (P : World → Prop) (S : Stop → Prop) (x : Run α) : Prop :=
  Triple P x (fun _ => P) fun e w => S e ∧ P w

namespace Keeps

variable {P : World → Prop} {S : Stop → Prop} {x : Run α}

theorem mono {T : Stop → Prop} (h : Keeps P S x) (hS : ∀ e, S e → T e) : Keeps P T x :=
  Triple.mono_stop h fun e _ he => ⟨hS e he.1, he.2⟩

theorem pure {a : α} : Keeps P S (pure a : Run α) := Triple.pure fun _ hw => hw

theorem throw {e : Stop} (he : S e) : Keeps P S (throw e : Run α) :=
  Triple.throw fun _ hw => ⟨he, hw⟩

theorem modify {f : World → World} (h : ∀ w, P w → P (f w)) : Keeps P S (modify f) :=
  Triple.modify h

theorem bind {f : α → Run β} (hx : Keeps P S x) (hf : ∀ a, Keeps P S (f a)) :
    Keeps P S (x >>= f) := Triple.bind hx hf

theorem tryCatch {f : Stop → Run α} {T : Stop → Prop} (hx : Keeps P T x)
    (hf : ∀ e, T e → Keeps P S (f e)) : Keeps P S (tryCatch x f) :=
  Triple.tryCatch hx fun e w hw => hf e hw.1 w hw.2

theorem ofExcept {r : Except Failure α} (h : ∀ f, S (.failure f)) : Keeps P S (ofExcept r) :=
  Triple.ofExcept (fun _ _ _ hw => hw) fun f _ _ hw => ⟨h f, hw⟩

theorem ofOption {r : Option α} {f : Failure} (h : S (.failure f)) : Keeps P S (ofOption f r) := by
  cases r with
  | some a => exact pure
  | none => exact throw h

theorem get : Keeps P S get := Triple.get.mono_answer fun _ _ h => h.2

theorem forIn {f : α → β → Run (ForInStep β)} {as : List α} {b : β}
    (h : ∀ a ∈ as, ∀ b, Keeps P S (f a b)) : Keeps P S (forIn as b f) := by
  induction as generalizing b with
  | nil => exact pure
  | cons a as ih =>
    rw [List.forall_mem_cons] at h
    rw [List.forIn_cons]
    refine bind (h.1 b) fun r => ?_
    cases r with
    | done b => exact pure
    | yield b => exact ih h.2

theorem mapM {f : α → Run β} {as : List α} (h : ∀ a ∈ as, Keeps P S (f a)) :
    Keeps P S (as.mapM f) := by
  have hall : ∀ a ∈ as, Triple P (f a) (fun _ w => True ∧ P w) fun e w => S e ∧ P w :=
    fun a ha => Triple.mono_answer (h a ha) fun _ _ hw => ⟨trivial, hw⟩
  exact (Triple.mapM (S := fun _ => True) hall).mono_answer fun _ _ hw => hw.2.2

theorem filterM {f : α → Run Bool} {as : List α} (h : ∀ a ∈ as, Keeps P S (f a)) :
    Keeps P S (as.filterM f) := by
  have haux : ∀ acc, Keeps P S (List.filterAuxM f as acc) := by
    induction as with
    | nil => exact fun _ => pure
    | cons a as ih =>
      rw [List.forall_mem_cons] at h
      exact fun acc => bind h.1 fun b => ih h.2 _
  exact (haux []).bind fun _ => pure

theorem forM {f : α → Run PUnit} {as : List α} (h : ∀ a ∈ as, Keeps P S (f a)) :
    Keeps P S (as.forM f) := by
  have hall : ∀ a ∈ as, Triple P (f a) (fun _ w => True ∧ P w) fun e w => S e ∧ P w :=
    fun a ha => Triple.mono_answer (h a ha) fun _ _ hw => ⟨trivial, hw⟩
  exact (Triple.forM (S := fun _ => True) hall).mono_answer fun _ _ hw => hw.2

/-- A run that is left out unless there is need for it, and another one. -/
theorem optional {c : Prop} [Decidable c] {x : Run PUnit} {f : PUnit → Run β} (hx : Keeps P S x)
    (hf : ∀ u, Keeps P S (f u)) : Keeps P S (if c then x >>= f else f ⟨⟩) := by
  by_cases h : c
  · rw [if_pos h]
    exact hx.bind hf
  · rw [if_neg h]
    exact hf ⟨⟩

theorem foldlM {f : β → α → Run β} {as : List α} {b : β} (h : ∀ b, ∀ a ∈ as, Keeps P S (f b a)) :
    Keeps P S (as.foldlM f b) := by
  induction as generalizing b with
  | nil => exact pure
  | cons a as ih =>
    rw [List.foldlM_cons]
    exact (h b a List.mem_cons_self).bind fun _ =>
      ih fun b a ha => h b a (List.mem_cons_of_mem _ ha)

end Keeps

end HiveScript.Run
