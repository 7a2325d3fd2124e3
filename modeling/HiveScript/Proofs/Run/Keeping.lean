import HiveScript.Log.Emission
import HiveScript.Proofs.Disk.Places
import HiveScript.Proofs.Run.Triple

/-!
# What stays at a place

A file keeps its content while records are made and streams are read and written, unless a sink of
the log adds to it.

* `World.emit_induction`: what a record does to a world.
* `World.Keeping`: what is at a place, and the directories that were there.
* `Run.Recorded`: conditions that records do not touch; `keeps_log`, `triple_step`, `keeps_die`.
* `Run.Settled`: conditions that streams do not touch either; **`settled_keeping`**, `keeps_print`.
-/

namespace HiveScript

/-! ## Records -/

theorem World.stream_putStream (w : World) (c c' : Channel) (s : Stream) :
    (w.putStream c s).stream c' = if c = c' then s else w.stream c' := by
  cases c' <;> rfl

/-- A record reaches the streams and the files of sinks. -/
theorem World.emit_induction {P : World → Prop}
    (hstream : ∀ w c line s, (w.stream c).write line = .ok s → P w → P (w.putStream c s))
    (happend : ∀ w place more, (∃ s ∈ w.log.sinks, s.target = .file place true) → P w →
      P { w with disk := w.disk.append place more })
    (r : Record) {w : World} (hw : P w) : P (w.emit r) := by
  have hwrite : ∀ {v : World} {s : Sink} (line : Text), s ∈ v.log.sinks → P v →
      P (v.writeTo s.target line) ∧ (v.writeTo s.target line).log = v.log := by
    intro v s line hs hv
    unfold World.writeTo
    cases htarget : s.target with
    | console c =>
      dsimp only
      split
      · next stream hmore => exact ⟨hstream v c _ stream hmore hv, rfl⟩
      · exact ⟨hv, rfl⟩
    | file place attached =>
      dsimp only
      split
      · exact ⟨happend v place _ ⟨s, hs, htarget⟩ hv, rfl⟩
      · exact ⟨hv, rfl⟩
  have hstep : ∀ {v : World} {s : Sink}, s ∈ v.log.sinks → P v →
      P (v.emitTo r s) ∧ (v.emitTo r s).log = v.log := by
    intro v s hs hv
    rw [World.emitTo]
    split_ifs
    · split
      · exact hwrite _ hs hv
      · exact ⟨hv, rfl⟩
    · exact ⟨hv, rfl⟩
  -- The sinks stay what they are while the record goes from one to the next.
  have hfold : ∀ (ss : List Sink) {v : World}, (∀ s ∈ ss, s ∈ v.log.sinks) → P v →
      P (ss.foldl (World.emitTo r) v) := by
    intro ss
    induction ss with
    | nil => exact fun _ hv => hv
    | cons s ss ih =>
      intro v hss hv
      rw [List.forall_mem_cons] at hss
      obtain ⟨hv', hlog⟩ := hstep hss.1 hv
      exact ih (fun t ht => hlog ▸ hss.2 t ht) hv'
  rw [World.emit]
  split_ifs
  · exact hfold _ (fun _ h => h) hw
  · exact hw

theorem Disk.alters_append {d : Disk} (p : Place) (more : Bytes) :
    Disk.Alters [p] d (d.append p more) := by
  rw [Disk.append]
  split
  · next content hp => exact Disk.alters_put _ (by rw [hp]; exact nofun)
  · exact ⟨Disk.Grows.refl d, fun _ _ => rfl⟩

theorem Disk.append_of_find?_eq_none {d : Disk} {p : Place} (hp : d.find? p = none) (more : Bytes) :
    d.append p more = d := by
  rw [Disk.append, hp]

/-- Files and directories stay what they are. -/
theorem Disk.find?_append_or (d : Disk) (p q : Place) (more : Bytes) :
    (d.append p more).find? q = d.find? q ∨
      ∃ content content', d.find? q = some (.file content) ∧
        (d.append p more).find? q = some (.file content') := by
  by_cases hq : q = p
  · subst hq
    rw [Disk.append]
    split
    · next content hp =>
      have hne : q ≠ [] := Disk.ne_nil_of_find?_ne (by rw [hp]; exact nofun)
      exact .inr ⟨content, _, hp, Disk.find?_put_self hne⟩
    · exact .inl rfl
  · exact .inl ((Disk.alters_append p more).other q (by simpa using hq))

/-! ## What is at a place -/

/-- At the place `q` there is `x`, to which no sink adds, and the directories of `d` are there. -/
structure World.Keeping (d : Disk) (q : Place) (x : Option Node) (w : World) : Prop where
  grows : d.Grows w.disk
  node : w.disk.find? q = x
  unlogged : x ≠ none → ∀ s ∈ w.log.sinks, s.target ≠ .file q true

theorem World.Keeping.alters {d d' : Disk} {q : Place} {x : Option Node} {w : World}
    {ps : List Place} (h : w.Keeping d q x) (hd : Disk.Alters ps w.disk d') (hq : q ∉ ps) :
    World.Keeping d q x { w with disk := d' } where
  grows := h.grows.trans hd.toGrows
  node := (hd.other q hq).trans h.node
  unlogged := h.unlogged

namespace Run

/-! ## Conditions that records and streams do not touch -/

/-- A condition that records do not touch. -/
structure Recorded (P : World → Prop) : Prop where
  emit : ∀ r w, P w → P (w.emit r)

/-- A condition that neither records nor streams touch. -/
structure Settled (P : World → Prop) : Prop extends Recorded P where
  input : ∀ i w, P w → P { w with input := i }
  output : ∀ o w, P w → P { w with output := o }

theorem Recorded.and {P Q : World → Prop} (hP : Recorded P) (hQ : Recorded Q) :
    Recorded fun w => P w ∧ Q w :=
  ⟨fun r w hw => ⟨hP.emit r w hw.1, hQ.emit r w hw.2⟩⟩

theorem recorded_home (home : Text) : Recorded fun w => w.home = home :=
  ⟨fun r _ h => World.emit_induction (P := fun w => w.home = home) (fun _ _ _ _ _ h => h)
    (fun _ _ _ _ h => h) r h⟩

theorem Settled.forall {ι : Sort*} {K : ι → World → Prop} (h : ∀ i, Settled (K i)) :
    Settled fun w => ∀ i, K i w :=
  ⟨⟨fun r w hw i => (h i).emit r w (hw i)⟩, fun x w hw i => (h i).input x w (hw i),
    fun x w hw i => (h i).output x w (hw i)⟩

theorem Settled.exists {ι : Sort*} {K : ι → World → Prop} (h : ∀ i, Settled (K i)) :
    Settled fun w => ∃ i, K i w :=
  ⟨⟨fun r w ⟨i, hw⟩ => ⟨i, (h i).emit r w hw⟩⟩, fun x w ⟨i, hw⟩ => ⟨i, (h i).input x w hw⟩,
    fun x w ⟨i, hw⟩ => ⟨i, (h i).output x w hw⟩⟩

theorem Settled.and_left {P : World → Prop} (hP : Settled P) (φ : Prop) :
    Settled fun w => φ ∧ P w :=
  ⟨⟨fun r w hw => ⟨hw.1, hP.emit r w hw.2⟩⟩, fun x w hw => ⟨hw.1, hP.input x w hw.2⟩,
    fun x w hw => ⟨hw.1, hP.output x w hw.2⟩⟩

theorem settled_true : Settled fun _ => True :=
  ⟨⟨fun _ _ h => h⟩, fun _ _ h => h, fun _ _ h => h⟩

/-- **What is at a place stays there while records are made and streams are used.** -/
theorem settled_keeping (d : Disk) (q : Place) (x : Option Node) :
    Settled (World.Keeping d q x) where
  emit r w h := by
    refine World.emit_induction (fun w _ _ _ _ h => ⟨h.grows, h.node, h.unlogged⟩) ?_ r h
    rintro w place more ⟨s, hs, hplace⟩ h
    by_cases hq : q = place
    · have hx : x = none := by
        by_contra hx
        exact h.unlogged hx s hs (hq ▸ hplace)
      rw [Disk.append_of_find?_eq_none (by rw [← hq, h.node, hx])]
      exact h
    · exact h.alters (Disk.alters_append place more) (by simpa using hq)
  input _ _ h := ⟨h.grows, h.node, h.unlogged⟩
  output _ _ h := ⟨h.grows, h.node, h.unlogged⟩

section

variable {P : World → Prop} {S : Stop → Prop} (hP : Recorded P)

include hP

theorem keeps_log (level : Level) (source : Text) (message : Template)
    (context : List (Text × Value)) : Keeps P S (log level source message context) :=
  Keeps.modify fun w => hP.emit _ w

theorem keeps_die {α : Type} {message : Text} (h : S (.fault (.fatal message))) :
    Keeps P S (die message : Run α) :=
  (keeps_log hP _ _ _ _).bind fun _ => Keeps.throw h

/-- A step does what its body does, and makes records before and after it. -/
theorem triple_step {α : Type} {body : Run α} {Q : α → World → Prop} {E : Stop → World → Prop}
    (h : Triple P body Q E) (hQ : ∀ a, Recorded (Q a)) (hE : ∀ e, Recorded (E e))
    (context : List (Text × Value)) (description : Text) :
    Triple P (step context description body) Q E := by
  have hlog : ∀ {R : World → Prop} level message, Recorded R →
      Triple R (log level "logging_utils" (.plain message) context) (fun _ => R) E :=
    fun _ _ hR => Triple.modify fun w hw => hR.emit _ w hw
  rw [step]
  refine (hlog _ _ hP).bind fun _ => Triple.bind (Q := Q) ?_ fun a =>
    (hlog _ _ (hQ a)).bind fun _ => Triple.pure fun _ hw => hw
  refine h.tryCatch fun e => ?_
  cases e with
  | fault f => exact (hlog _ _ (hE _)).bind fun _ => Triple.throw fun _ hw => hw
  | failure f => exact (hlog _ _ (hE _)).bind fun _ => Triple.throw fun _ hw => hw
  | exit status => exact Triple.throw fun _ hw => hw
  | interrupt => exact Triple.throw fun _ hw => hw

end

theorem keeps_print {P : World → Prop} {S : Stop → Prop} (hP : Settled P)
    (hS : ∀ f, S (.failure f)) (t : Text) : Keeps P S (print t) := by
  refine Triple.get.bind fun w => Triple.bind (Q := fun _ v => v = w ∧ P v) ?_ fun o => ?_
  · exact Triple.ofExcept (fun _ _ v hv => ⟨hv.1.symm, hv.2⟩) fun f _ v hv => ⟨hS f, hv.2⟩
  · refine Triple.set fun v hv => hP.output o w ?_
    rw [← hv.1]
    exact hv.2

end Run

end HiveScript
