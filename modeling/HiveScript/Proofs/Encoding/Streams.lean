import HiveScript.Console.Stream
import HiveScript.Proofs.Text.Ascii

/-!
# What streams take

A stream that takes a text has it at its end. Any stream takes a text without surrogates.

* `Stream.adding`: a stream to which more is written; `eq_adding_of_write`.
* `Utf8.surrogateRun?_eq_none_iff`: texts that have a strict form.
* **`Stream.write_of_isWhole`**, `Utf8.encode?_of_isWhole`: texts that all streams and files take.
-/

namespace HiveScript

namespace Utf8

theorem surrogateRun?_eq_none_iff {s : Text} :
    surrogateRun? s = none ↔ ∀ p ∈ s, p.isSurrogate = false := by
  have hdrop : surrogateRun? s = none ↔ s.dropWhile (fun p => !p.isSurrogate) = [] := by
    rw [surrogateRun?]
    cases s.dropWhile fun p => !p.isSurrogate with
    | nil => exact iff_of_true rfl rfl
    | cons p rest => exact iff_of_false nofun nofun
  rw [hdrop, List.dropWhile_eq_nil_iff]
  simp only [Bool.not_eq_true']

theorem encode?_of_isWhole {s : Text} (hs : s.IsWhole) : encode? s = .ok (encode s) := by
  rw [encode?, surrogateRun?_eq_none_iff.mpr hs]

end Utf8

namespace Stream

/-- A stream to which more is written. -/
def adding (o : Stream) (t : Text) : Stream := { o with written := o.written ++ t }

@[simp]
theorem adding_nil (o : Stream) : o.adding [] = o := by rw [adding, List.append_nil]

theorem adding_adding (o : Stream) (t u : Text) : (o.adding t).adding u = o.adding (t ++ u) := by
  rw [adding, adding, adding, List.append_assoc]

variable {s s' : Stream} {t : Text}

theorem eq_adding_of_write (h : s.write t = .ok s') : s' = s.adding t := by
  rw [write] at h
  split at h
  · cases h
  · exact (Except.ok.inj h).symm

theorem policy_of_write (h : s.write t = .ok s') : s'.policy = s.policy := by
  rw [eq_adding_of_write h, adding]

theorem exists_write_eq_ok (h : s.policy = .strict → Utf8.surrogateRun? t = none) :
    ∃ s', s.write t = .ok s' := by
  rw [write]
  split
  · next run hpolicy hrun => cases (h hpolicy).symm.trans hrun
  · exact ⟨_, rfl⟩

/-- **Any stream takes a text without surrogates.** -/
theorem write_of_isWhole (s : Stream) (ht : t.IsWhole) : s.write t = .ok (s.adding t) := by
  obtain ⟨s', hs'⟩ := exists_write_eq_ok (s := s) fun _ => Utf8.surrogateRun?_eq_none_iff.mpr ht
  rw [hs', eq_adding_of_write hs']

end Stream

end HiveScript
