import HiveScript.Batch.Run
import Mathlib.Data.List.Basic

/-!
# Reports

The status of a batch and the report that goes with it. Only a number of too many digits can keep
the report of a batch from being made.

* `Outcome.status`, `Outcome.exists_report_eq`: a report tells the status.
* `Json.Spelled`: what nothing but a long number can keep from being written.
* **`Outcome.spelled_report`**, `Settings.spelled_reportText`.
-/

namespace HiveScript

/-! ## Writing -/

namespace Json

/-- Nothing but a number of too many digits can keep a text from being written. -/
def Spelled {α : Type} (x : Except Failure α) : Prop := ∀ f, x = .error f → f = .numeralNotWritten

namespace Spelled

variable {α β : Type}

theorem ok (a : α) : Spelled (.ok a) := fun _ h => nomatch h

theorem bind {x : Except Failure α} {f : α → Except Failure β} (hx : Spelled x)
    (hf : ∀ a, Spelled (f a)) : Spelled (x >>= f) := by
  cases x with
  | ok a => exact hf a
  | error e =>
    obtain rfl := hx e rfl
    rintro _ ⟨⟩
    rfl

theorem mapM {f : α → Except Failure β} {xs : List α} (h : ∀ x ∈ xs, Spelled (f x)) :
    Spelled (xs.mapM f) := by
  induction xs with
  | nil => exact ok []
  | cons x xs ih =>
    obtain ⟨hx, hxs⟩ := List.forall_mem_cons.mp h
    rw [List.mapM_cons]
    exact hx.bind fun y => (ih hxs).bind fun ys => ok (y :: ys)

end Spelled

theorem spelled_integer (i : Int) : Spelled (integer i) := by
  -- The equation of this definition would evaluate the bound on numerals.
  delta integer
  generalize Numeral.ofInt? i = numeral
  cases numeral with
  | some t => exact .ok t
  | none =>
    rintro _ ⟨⟩
    rfl

theorem spelled_int (l : Layout) (depth : Nat) (i : Int) : Spelled (write l depth (.int i)) := by
  rw [Value.int, write, scalar]
  exact spelled_integer i

theorem spelled_writeItems {l : Layout} {depth : Nat} {vs : List Value}
    (h : ∀ v ∈ vs, Spelled (write l depth v)) : Spelled (writeItems l depth vs) := by
  induction vs with
  | nil => exact .ok []
  | cons v vs ih =>
    obtain ⟨hv, hvs⟩ := List.forall_mem_cons.mp h
    rw [writeItems]
    exact hv.bind fun t => (ih hvs).bind fun ts => .ok (t :: ts)

theorem spelled_list {l : Layout} {depth : Nat} {vs : List Value}
    (h : ∀ v ∈ vs, Spelled (write l (depth + 1) v)) : Spelled (write l depth (.list vs)) := by
  rw [write]
  exact (spelled_writeItems h).bind fun _ => .ok _

/-- Fields that can be put in order are written if each of them is. -/
theorem spelled_map {l : Layout} {depth : Nat} {entries : List (Scalar × Value)}
    {fields : List (Scalar × Except Failure Text)}
    (horder : order l (writeFields l (depth + 1) entries) = .ok fields)
    (h : ∀ field ∈ fields, Spelled field.2) : Spelled (write l depth (.map entries)) := by
  rw [write, horder]
  exact (Spelled.mapM h).bind fun _ => .ok _

/-- A field under a text is written if its value is. -/
theorem spelled_field {l : Layout} {depth : Nat} {k : Text} {v : Value}
    (h : Spelled (write l depth v)) :
    Spelled (do return (← key l.ascii (.text k)) ++ ": " ++ (← write l depth v)) :=
  (Spelled.ok _).bind fun _ => h.bind fun _ => .ok _

end Json

/-! ## Reports of batches -/

namespace Outcome

/-- The status of a batch with some outcomes. -/
def status (os : List Outcome) : Nat := if os.all fun o => o.result.isOk then 0 else 2

theorem isEmpty_failed (os : List Outcome) :
    (failed os).isEmpty = os.all fun o => o.result.isOk := by
  rw [Bool.eq_iff_iff, List.isEmpty_iff, failed, List.filter_eq_nil_iff, List.all_eq_true]
  simp

theorem status_of_failed {os : List Outcome} (h : (failed os).length ≠ 0) : status os = 2 := by
  rw [status, ← isEmpty_failed, if_neg (by simpa [List.isEmpty_iff_length_eq_zero] using h)]

theorem status_of_not_failed {os : List Outcome} (h : ¬ (failed os).length ≠ 0) :
    status os = 0 := by
  rw [status, ← isEmpty_failed, if_pos (by simpa [List.isEmpty_iff_length_eq_zero] using h)]

/-- A report says whether the status is zero. -/
theorem exists_report_eq (os : List Outcome) : ∃ inputs,
    report os = .object [("ok", .bool (decide (status os = 0))), ("inputs", inputs)] := by
  refine ⟨.list (os.map fun o => .object (o.fields o.target.isNone)), ?_⟩
  rw [report, isEmpty_failed, status]
  cases os.all fun o => o.result.isOk <;> rfl

theorem order_failed (input ok error line message : Except Failure Text) :
    Json.order .report [(.text "input", input), (.text "ok", ok), (.text "error", error),
      (.text "line", line), (.text "message", message)] =
        .ok [(.text "error", error), (.text "input", input), (.text "line", line),
          (.text "message", message), (.text "ok", ok)] := by
  cbv

theorem order_written (input ok keys values output : Except Failure Text) :
    Json.order .report [(.text "input", input), (.text "ok", ok), (.text "keys", keys),
      (.text "values", values), (.text "output", output)] =
        .ok [(.text "input", input), (.text "keys", keys), (.text "ok", ok),
          (.text "output", output), (.text "values", values)] := by
  cbv

theorem order_reported (input ok keys values script : Except Failure Text) :
    Json.order .report [(.text "input", input), (.text "ok", ok), (.text "keys", keys),
      (.text "values", values), (.text "script", script)] =
        .ok [(.text "input", input), (.text "keys", keys), (.text "ok", ok),
          (.text "script", script), (.text "values", values)] := by
  cbv

/-- The fields of an outcome can be written. A script that failed is in no file. -/
theorem spelled_fields {o : Outcome} {name : Text} (hname : o.source.toValue = .text name)
    (htarget : o.result.isOk = false → o.target = none) (depth : Nat) :
    Json.Spelled (Json.write .report depth (.object (o.fields o.target.isNone))) := by
  have htext : ∀ t : Text, Json.Spelled (Json.write .report (depth + 1) (.text t)) := fun t => .ok _
  have hnat : ∀ n : Nat, Json.Spelled (Json.write .report (depth + 1) (.nat n)) := fun n =>
    Json.spelled_int _ _ n
  obtain ⟨source, ⟨script, fault⟩, target⟩ := o
  dsimp only at hname
  cases fault with
  | some f =>
    obtain rfl : target = none := htarget rfl
    have hline : Json.Spelled (Json.write .report (depth + 1) f.line) := by
      rw [Fault.line]
      split
      · exact Json.spelled_int _ _ _
      · exact .ok _
    simp only [fields, hname]
    refine Json.spelled_map (order_failed _ _ _ _ _) ?_
    simp only [List.forall_mem_cons]
    exact ⟨Json.spelled_field (htext _), Json.spelled_field (htext _), Json.spelled_field hline,
      Json.spelled_field (htext _), Json.spelled_field (.ok _), List.forall_mem_nil _⟩
  | none =>
    simp only [fields, hname]
    cases target with
    | some t =>
      refine Json.spelled_map (order_written _ _ _ _ _) ?_
      simp only [List.forall_mem_cons]
      exact ⟨Json.spelled_field (htext _), Json.spelled_field (hnat _), Json.spelled_field (.ok _),
        Json.spelled_field (htext _), Json.spelled_field (hnat _), List.forall_mem_nil _⟩
    | none =>
      refine Json.spelled_map (order_reported _ _ _ _ _) ?_
      simp only [List.forall_mem_cons]
      exact ⟨Json.spelled_field (htext _), Json.spelled_field (hnat _), Json.spelled_field (.ok _),
        Json.spelled_field (htext _), Json.spelled_field (hnat _), List.forall_mem_nil _⟩

theorem order_report (ok inputs : Except Failure Text) :
    Json.order .report [(.text "ok", ok), (.text "inputs", inputs)] =
      .ok [(.text "inputs", inputs), (.text "ok", ok)] := by
  cbv

/-- **Only a long number can keep the report from being made.** -/
theorem spelled_report {os : List Outcome}
    (hname : ∀ o ∈ os, ∃ name, o.source.toValue = .text name)
    (htarget : ∀ o ∈ os, o.result.isOk = false → o.target = none) :
    Json.Spelled (Json.report (report os)) := by
  rw [Json.report, report]
  refine Json.spelled_map (order_report _ _) ?_
  simp only [List.forall_mem_cons]
  refine ⟨?_, ?_, List.forall_mem_nil _⟩
  · refine Json.spelled_field (Json.spelled_list fun v hv => ?_)
    obtain ⟨o, ho, rfl⟩ := List.mem_map.mp hv
    obtain ⟨name, hname⟩ := hname o ho
    exact spelled_fields hname (htarget o ho) _
  · exact Json.spelled_field (.ok _)

end Outcome

/-- What is printed after all scripts: the report, if there is to be one. -/
def Settings.reportText (s : Settings) (os : List Outcome) : Except Failure Text :=
  if s.reports then do return (← Json.report (Outcome.report os)) ++ [Point.lineFeed] else .ok []

theorem Settings.spelled_reportText (s : Settings) {os : List Outcome}
    (hname : ∀ o ∈ os, ∃ name, o.source.toValue = .text name)
    (htarget : ∀ o ∈ os, o.result.isOk = false → o.target = none) :
    Json.Spelled (s.reportText os) := by
  rw [reportText]
  split_ifs
  · exact (Outcome.spelled_report hname htarget).bind fun _ => .ok _
  · exact .ok []

end HiveScript
