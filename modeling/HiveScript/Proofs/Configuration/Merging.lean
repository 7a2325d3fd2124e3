import HiveScript.Configuration.Merging
import HiveScript.Proofs.Results
import HiveScript.Proofs.Value.Keys

/-!
# The last one wins

What mappings come to that are merged one after the other, told key by key from all of them at once:
the last value of a key counts, and if it is a mapping, it is what the mappings at the end of the
values of the key come to, by the same law. A value between two mappings cuts off what was before.

* `Entries.Separate`: mappings in which no key comes twice, however deep.
* `LastWins`, `MergedFrom`: the law.
* `find?_merge`: one mapping over another; `MergedFrom.merge`: one more mapping under the law.
* **`mergedFrom_foldl`**: any number of mappings.
* `Entries.settingOf?`: the value that a mapping gives a setting; `find?_withPlainKeys`.
-/

namespace HiveScript

namespace Entries

/-! ## Mappings without repeated keys at any depth -/

/-- No key comes twice, in mappings inside of mappings neither. -/
inductive Separate : Entries → Prop where
  | intro {es : Entries} (distinct : Distinct es)
    (inner : ∀ e ∈ es, ∀ es', e.2 = .map es' → Separate es') : Separate es

theorem Separate.distinct {es : Entries} (h : Separate es) : Distinct es := by
  cases h with
  | intro distinct inner => exact distinct

theorem Separate.inner {es es' : Entries} (h : Separate es) {e : Scalar × Value} (he : e ∈ es)
    (hes' : e.2 = .map es') : Separate es' := by
  cases h with
  | intro distinct inner => exact inner e he es' hes'

theorem Separate.of_find? {es es' : Entries} (h : Separate es) {k : Scalar}
    (hk : find? k es = some (.map es')) : Separate es' := by
  obtain ⟨e, he, -, hes'⟩ := exists_of_find?_eq_some hk
  exact h.inner he hes'

theorem separate_nil : Separate [] :=
  .intro distinct_nil fun _ he => absurd he List.not_mem_nil

theorem Separate.put {es : Entries} (h : Separate es) (k : Scalar) {v : Value}
    (hv : ∀ es', v = .map es' → Separate es') : Separate (put k v es) := by
  refine .intro (h.distinct.put k v) fun e he es' hes' => ?_
  rcases mem_put he with ⟨rfl, -⟩ | he
  · exact hv es' hes'
  · exact h.inner he hes'

theorem separate_ofList {es : List (Scalar × Value)}
    (hes : ∀ e ∈ es, ∀ es', e.2 = .map es' → Separate es') : Separate (ofList es) := by
  refine .intro (distinct_ofList es) fun e he es' hes' => ?_
  obtain ⟨e', he', hvalue, -⟩ := mem_ofList he
  exact hes e' he' es' (hvalue ▸ hes')

end Entries

open Entries

/-! ## The law -/

/-- What the values of one key come to, in the order of the mappings that hold them: the last one,
and if it is a mapping, what `merged` makes of the mappings at the end. -/
inductive LastWins (merged : List Entries → Entries → Prop) : List Value → Option Value → Prop where
  | nothing : LastWins merged [] none
  | single (vs : List Value) {v : Value} (hv : ∀ es, v ≠ .map es) :
      LastWins merged (vs ++ [v]) (some v)
  | mappings {vs : List Value} (hvs : ∀ es, vs.getLast? ≠ some (.map es)) {ms : List Entries}
      (hms : ms ≠ []) {es : Entries} (hes : merged ms es) :
      LastWins merged (vs ++ ms.map .map) (some (.map es))

/-- One mapping after other values. -/
theorem LastWins.mapping {merged : List Entries → Entries → Prop} (vs : List Value)
    (hvs : ∀ es, vs.getLast? ≠ some (.map es)) {es es' : Entries} (h : merged [es] es') :
    LastWins merged (vs ++ [.map es]) (some (.map es')) :=
  .mappings hvs (List.cons_ne_nil es []) h

theorem LastWins.eq_none {merged : List Entries → Entries → Prop} {o : Option Value}
    (h : LastWins merged [] o) : o = none := by
  generalize hvs : ([] : List Value) = vs at h
  cases h with
  | nothing => rfl
  | single vs hv => exact absurd hvs.symm (List.append_ne_nil_of_right_ne_nil vs nofun)
  | mappings hvs' hms hes =>
    refine absurd hvs.symm (List.append_ne_nil_of_right_ne_nil _ ?_)
    simpa using hms

/-- What mappings come to, key by key. -/
inductive MergedFrom : List Entries → Entries → Prop where
  | intro {ms : List Entries} {es : Entries}
      (h : ∀ k, LastWins MergedFrom (ms.filterMap (find? k)) (find? k es)) : MergedFrom ms es

theorem MergedFrom.lastWins {ms : List Entries} {es : Entries} (h : MergedFrom ms es) (k : Scalar) :
    LastWins MergedFrom (ms.filterMap (find? k)) (find? k es) := by
  cases h with
  | intro h => exact h k

theorem mergedFrom_nil : MergedFrom [] [] := .intro fun _ => .nothing

/-- One mapping alone comes to itself. -/
theorem mergedFrom_singleton {es : Entries} (h : Separate es) : MergedFrom [es] es := by
  induction h with
  | @intro es distinct inner ih =>
    refine .intro fun k => ?_
    rw [List.filterMap_cons]
    cases hk : find? k es with
    | none => exact .nothing
    | some v =>
      cases v with
      | scalar s => exact .single [] nofun
      | list items => exact .single [] nofun
      | map es' =>
        obtain ⟨e, he, -, hes'⟩ := exists_of_find?_eq_some hk
        exact .mapping [] nofun (ih e he es' hes')

/-! ## One mapping over another -/

/-- What is under a key of the later mapping goes over what was there. -/
theorem find?_merge {later : Entries} (h : Distinct later) (k : Scalar) (base : Entries) :
    find? k (merge base later) =
      match find? k later with
      | none => find? k base
      | some v => some (mergeValue (find? k base) v) := by
  induction later generalizing base with
  | nil => rw [merge]; rfl
  | cons e later ih =>
    obtain ⟨k', v⟩ := e
    obtain ⟨hnew, hlater⟩ := List.nodup_cons.mp h
    rw [merge, ih hlater]
    by_cases hk : k'.key = k.key
    · have hnone : find? k later = none := find?_eq_none_iff.mpr fun e he hkey =>
        hnew (List.mem_map.mpr ⟨e, he, hkey.trans hk.symm⟩)
      rw [hnone, find?_cons_of_eq (e := (k', v)) hk, find?_put_self hk, find?_congr hk]
    · rw [find?_put_of_ne hk, find?_cons_of_ne (e := (k', v)) hk]

theorem mergeValue_of_ne (old : Option Value) {v : Value} (hv : ∀ es, v ≠ .map es) :
    mergeValue old v = v := by
  cases v with
  | map es => exact absurd rfl (hv es)
  | scalar s => rw [mergeValue]; exact nofun
  | list items => rw [mergeValue]; exact nofun

/-- Mappings without repeated keys come to one of this kind. -/
theorem Entries.Separate.merge {later : Entries} (h : Separate later) {base : Entries}
    (hbase : Separate base) : Separate (merge base later) := by
  induction h generalizing base with
  | @intro later distinct inner ih =>
    clear distinct
    induction later generalizing base with
    | nil => exact hbase
    | cons e later ihlater =>
      rw [Entries.merge]
      refine ihlater (fun e' he' => inner e' (List.mem_cons_of_mem e he'))
        (fun e' he' => ih e' (List.mem_cons_of_mem e he')) (hbase.put _ fun es hes => ?_)
      by_cases hmap : ∀ es, e.2 ≠ .map es
      · rw [mergeValue_of_ne _ hmap] at hes
        exact absurd hes (hmap es)
      obtain ⟨es', hes'⟩ : ∃ es, e.2 = .map es := by simpa using hmap
      rw [hes', mergeValue.eq_def] at hes
      dsimp only at hes
      split at hes
      · next hold =>
        cases hes
        exact ih e List.mem_cons_self es' hes' (hbase.of_find? hold)
      · cases hes
        exact inner e List.mem_cons_self _ hes'

/-- **One more mapping under the law.** The induction is on the depth of that mapping: what it has
under a key goes over a mapping that the ones before it came to, over something else, or over
nothing. -/
theorem MergedFrom.merge {later : Entries} (h : Separate later) {ms : List Entries}
    {base : Entries} (hbase : MergedFrom ms base) :
    MergedFrom (ms ++ [later]) (merge base later) := by
  induction h generalizing ms base with
  | @intro later distinct inner ih =>
    refine .intro fun k => ?_
    have hlast := hbase.lastWins k
    rw [List.filterMap_append, List.filterMap_cons, List.filterMap_nil, find?_merge distinct]
    cases hk : find? k later with
    | none =>
      dsimp only
      rwa [List.append_nil]
    | some v =>
      dsimp only
      by_cases hv : ∀ es, v ≠ .map es
      · rw [mergeValue_of_ne _ hv]
        exact .single _ hv
      obtain ⟨es, rfl⟩ : ∃ es, v = .map es := by simpa using hv
      obtain ⟨e, he, -, hes⟩ := exists_of_find?_eq_some hk
      have halone : MergedFrom [es] es := mergedFrom_singleton (inner e he es hes)
      generalize ms.filterMap (find? k) = vs at hlast ⊢
      generalize find? k base = old at hlast ⊢
      cases hlast with
      | nothing => exact .mapping [] nofun halone
      | @single vs w hw =>
        have hold : mergeValue (some w) (.map es) = .map es := by
          rw [mergeValue]
          exact fun base hbase => hw base (Option.some.inj hbase)
        rw [hold]
        refine .mapping (vs ++ [w]) (fun es' => ?_) halone
        rw [List.getLast?_concat]
        exact fun h => hw es' (Option.some.inj h)
      | @mappings vs hvs ms' hms base' hbase' =>
        rw [mergeValue, List.append_assoc, ← List.map_singleton, ← List.map_append]
        exact .mappings hvs (List.append_ne_nil_of_left_ne_nil hms _) (ih e he es hes hbase')

/-- What is found in what mappings come to is found in one of them. -/
theorem MergedFrom.exists_find?_ne_none {ms : List Entries} {es : Entries} (h : MergedFrom ms es)
    {k : Scalar} (hk : find? k es ≠ none) : ∃ m ∈ ms, find? k m ≠ none := by
  have hvs : ms.filterMap (find? k) ≠ [] := by
    intro hvs
    have hlast := h.lastWins k
    rw [hvs] at hlast
    exact hk hlast.eq_none
  obtain ⟨v, hv⟩ := List.exists_mem_of_ne_nil _ hvs
  obtain ⟨m, hm, hfound⟩ := List.mem_filterMap.mp hv
  exact ⟨m, hm, hfound ▸ Option.some_ne_none v⟩

/-- **Mappings that are merged one after the other come to what the law says.** -/
theorem mergedFrom_foldl {ms : List Entries} (h : ∀ es ∈ ms, Separate es) :
    MergedFrom ms (ms.foldl Entries.merge []) := by
  induction ms using List.reverseRecOn with
  | nil => exact mergedFrom_nil
  | append_singleton ms es ih =>
    rw [List.foldl_append]
    have hms : MergedFrom ms (ms.foldl Entries.merge []) := ih fun es' hes' =>
      h es' (List.mem_append_left [es] hes')
    exact hms.merge (h es (List.mem_append_right ms List.mem_cons_self))

theorem Entries.separate_foldl_merge {ms : List Entries} (h : ∀ es ∈ ms, Separate es)
    {base : Entries} (hbase : Separate base) : Separate (ms.foldl Entries.merge base) := by
  induction ms generalizing base with
  | nil => exact hbase
  | cons es ms ih =>
    obtain ⟨hes, hms⟩ := List.forall_mem_cons.mp h
    exact ih hms (hes.merge hbase)

/-! ## Keys of settings -/

namespace Entries

/-- The value that a mapping gives a setting: the last one under a key that stands for it. -/
def settingOf? (k : Text) (es : Entries) : Option Value :=
  (es.reverse.find? fun e => (plainKey e.1).toOption = some k).map (·.2)

/-- An entry under the name of the setting that its key stands for. -/
def Plain (e e' : Scalar × Value) : Prop := ∃ s, plainKey e.1 = .ok s ∧ e' = (.text s, e.2)

theorem exists_of_withPlainKeys {es m : Entries} (h : es.withPlainKeys = .ok m) :
    ∃ plain, List.Forall₂ Plain es plain ∧ m = ofList plain := by
  obtain ⟨plain, hplain, hm⟩ := exists_of_bind_eq_ok h
  refine ⟨plain, (forall₂_of_mapM_eq_ok hplain).imp fun e e' he => ?_, (Except.ok.inj hm).symm⟩
  obtain ⟨s, hs, he'⟩ := exists_of_bind_eq_ok he
  exact ⟨s, hs, (Except.ok.inj he').symm⟩

theorem find?_text_of_plain {es plain : Entries} (h : List.Forall₂ Plain es plain) (k : Text) :
    find? (.text k) plain =
      (List.find? (fun e => (plainKey e.1).toOption = some k) es).map (·.2) := by
  induction h with
  | nil => rfl
  | @cons e e' es plain he _ ih =>
    obtain ⟨s, hs, rfl⟩ := he
    have hname : (plainKey e.1).toOption = some s := by rw [hs]; rfl
    by_cases hsk : s = k
    · rw [find?_cons_of_eq (e := (.text s, e.2)) (by rw [hsk]),
        List.find?_cons_of_pos (by simpa [hname] using hsk)]
      rfl
    · have hkey : (Scalar.text s).key ≠ (Scalar.text k).key := by simpa [Scalar.key] using hsk
      rw [find?_cons_of_ne (e := (.text s, e.2)) hkey, ih,
        List.find?_cons_of_neg (by simpa [hname] using hsk)]

/-- **Under the name of a setting stands the value that the mapping gives it.** -/
theorem find?_withPlainKeys {es m : Entries} (h : es.withPlainKeys = .ok m) (k : Text) :
    find? (.text k) m = es.settingOf? k := by
  obtain ⟨plain, hplain, rfl⟩ := exists_of_withPlainKeys h
  rw [find?_ofList, settingOf?]
  exact find?_text_of_plain (List.forall₂_reverse_iff.mpr hplain) k

/-- Only names of settings are found there. -/
theorem exists_text_of_withPlainKeys {es m : Entries} (h : es.withPlainKeys = .ok m) {k : Scalar}
    (hk : find? k m ≠ none) : ∃ s, k = .text s := by
  obtain ⟨plain, hplain, rfl⟩ := exists_of_withPlainKeys h
  obtain ⟨v, hv⟩ := Option.ne_none_iff_exists'.mp hk
  rw [find?_ofList] at hv
  obtain ⟨e', he', hkey, -⟩ := exists_of_find?_eq_some hv
  obtain ⟨e'', -, s, -, rfl⟩ := exists_of_forall₂_right hplain (List.mem_reverse.mp he')
  exact ⟨s, Scalar.eq_text_of_key_eq hkey.symm⟩

theorem Separate.withPlainKeys {es m : Entries} (hes : Separate es)
    (h : es.withPlainKeys = .ok m) : Separate m := by
  obtain ⟨plain, hplain, rfl⟩ := exists_of_withPlainKeys h
  refine separate_ofList fun e he es' hes' => ?_
  obtain ⟨e', he', s, -, rfl⟩ := exists_of_forall₂_right hplain he
  exact hes.inner he' hes'

end Entries

end HiveScript
