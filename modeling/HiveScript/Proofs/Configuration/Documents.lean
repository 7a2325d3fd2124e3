import HiveScript.Configuration.Document
import HiveScript.Proofs.Configuration.Merging

/-!
# Mappings of documents

A document holds mappings in which no key comes twice, however deep: of several values for one key
the last one was put over the others when the document was read.

* `Value.Separate`: values that are no mapping, or one of this kind.
* `Json.separate_of_read`, `Yaml.separate_of_read`: the two forms of documents.
* **`Configuration.separate_of_parse`**: the entries of a document.
-/

namespace HiveScript

open Entries (Separate separate_nil separate_ofList)

/-- If the value is a mapping, no key comes twice in it. -/
def Value.Separate (v : Value) : Prop := ∀ es, v = .map es → Entries.Separate es

theorem Value.separate_scalar (s : Scalar) : (Value.scalar s).Separate := nofun

theorem Value.separate_list (items : List Value) : (Value.list items).Separate := nofun

theorem Value.separate_map {es : Entries} (h : es.Separate) : (Value.map es).Separate :=
  fun _ he => Value.map.inj he ▸ h

/-! ## JSON -/

namespace Json

theorem separate_of_readNumber {negative : Bool} {s rest : Text} {v : Value}
    (h : readNumber negative s = some (.ok v, rest)) : v.Separate := by
  obtain ⟨whole, -, h⟩ := Option.bind_eq_some_iff.mp h
  dsimp only at h
  split_ifs at h <;> cases h <;> exact Value.separate_scalar _

theorem separate_of_mem_words {e : String × Value} (he : e ∈ words) : e.2.Separate := by
  simp only [words, List.mem_cons, List.not_mem_nil, or_false] at he
  rcases he with rfl | rfl | rfl | rfl | rfl | rfl <;> exact Value.separate_scalar _

theorem separate_of_readAtom {s rest : Text} {v : Value} (h : readAtom s = .ok (v, rest)) :
    v.Separate := by
  rw [readAtom.eq_def] at h
  split at h
  · next found hfound =>
    obtain ⟨e, he, hword⟩ := List.exists_of_findSome?_eq_some hfound
    obtain ⟨rest', -, rfl⟩ := Option.map_eq_some_iff.mp hword
    cases h
    exact separate_of_mem_words he
  dsimp only at h
  split at h
  · next v' rest' hnumber =>
    cases h
    split at hnumber
    · split_ifs at hnumber
      · exact separate_of_readNumber hnumber
      · exact separate_of_readNumber hnumber
    · cases hnumber
  · cases h
  · cases h

/-- Fields are put one after the other into mappings of values that were read before. -/
theorem separate_of_readFuel (fuel : Nat) :
    (∀ depth s v rest, readValue depth fuel s = .ok (v, rest) → v.Separate) ∧
      ∀ depth (es : Entries) s es' rest, es.Separate →
        readFields depth fuel es s = .ok (es', rest) → Separate es' := by
  induction fuel with
  | zero =>
    refine ⟨fun _ _ _ _ h => ?_, fun _ _ _ _ _ _ h => ?_⟩
    · cases h
    · cases h
  | succ fuel ih =>
    obtain ⟨hvalue, hfields⟩ := ih
    constructor
    · intro depth s v rest h
      rw [readValue.eq_def] at h
      dsimp only at h
      split at h
      · cases h
      split_ifs at h
      · obtain ⟨r, -, h⟩ := exists_of_map_eq_ok h
        cases h
        exact Value.separate_scalar _
      · split at h
        · split_ifs at h
          · cases h
            exact Value.separate_map separate_nil
          · obtain ⟨r, hr, h⟩ := exists_of_map_eq_ok h
            cases h
            exact Value.separate_map (hfields _ _ _ _ _ separate_nil hr)
        · cases h
      · split at h
        · split_ifs at h
          · cases h
            exact Value.separate_list []
          · obtain ⟨r, -, h⟩ := exists_of_map_eq_ok h
            cases h
            exact Value.separate_list _
        · cases h
      · exact separate_of_readAtom h
    · intro depth es s es' rest hes h
      rw [readFields.eq_def] at h
      dsimp only at h
      split at h
      · cases h
      split_ifs at h
      · obtain ⟨⟨name, rest'⟩, -, h⟩ := exists_of_bind_eq_ok h
        dsimp only at h
        split at h
        · cases h
        split_ifs at h
        · obtain ⟨⟨v, rest''⟩, hv, h⟩ := exists_of_bind_eq_ok h
          have hput := hes.put (.text name) (hvalue _ _ _ _ hv)
          dsimp only at h
          split at h
          · cases h
          split_ifs at h
          · cases h
            exact hput
          · exact hfields _ _ _ _ _ hput h
          · cases h
        · cases h
      · cases h

theorem separate_of_read {s : Text} {v : Value} (h : read s = .ok v) : v.Separate := by
  rw [read] at h
  split_ifs at h
  · cases h
  obtain ⟨⟨v', rest⟩, hv, h⟩ := exists_of_bind_eq_ok h
  dsimp only at h
  split_ifs at h
  · cases h
    exact (separate_of_readFuel _).1 _ _ _ _ hv
  · cases h

end Json

/-! ## YAML -/

namespace Yaml

namespace Node

theorem exists_of_both_eq_ok {α β γ : Type} {f : α → β → γ} {x : Made α} {y : Made β} {c : γ}
    (h : both f x y = .ok c) : ∃ a b, x = .ok a ∧ y = .ok b ∧ f a b = c := by
  cases x with
  | error p => cases y <;> cases h
  | ok a =>
    cases y with
    | error q => cases h
    | ok b => exact ⟨a, b, rfl, rfl, Except.ok.inj h⟩

theorem forall₂_of_all_eq_ok {α : Type} {xs : List (Made α)} {as : List α} (h : all xs = .ok as) :
    List.Forall₂ (fun x a => x = .ok a) xs as := by
  induction xs generalizing as with
  | nil =>
    obtain rfl := Except.ok.inj h
    exact .nil
  | cons x xs ih =>
    obtain ⟨a, as', hx, hxs, rfl⟩ := exists_of_both_eq_ok h
    exact .cons hx (ih hxs)

theorem separate_of_valueFuel {fuel level : Nat} {n : Node} {v : Value}
    (h : valueFuel fuel level n = .ok v) : v.Separate := by
  induction fuel generalizing level n v with
  | zero =>
    rw [valueFuel] at h
    cases h
  | succ fuel ih =>
    rw [valueFuel.eq_def] at h
    dsimp only at h
    split at h
    · obtain ⟨items, -, h⟩ := exists_of_map_eq_ok h
      cases h
      exact Value.separate_list items
    · cases h
    · split at h
      · cases h
      · obtain ⟨es, hes, h⟩ := exists_of_map_eq_ok h
        cases h
        refine Value.separate_map (separate_ofList fun e he => ?_)
        obtain ⟨x, hx, rfl⟩ := exists_of_forall₂_right (forall₂_of_all_eq_ok hes) he
        obtain ⟨entry, -, hentry⟩ := List.mem_map.mp hx
        obtain ⟨k, w, -, hw, rfl⟩ := exists_of_both_eq_ok hentry
        exact ih hw
    · cases h
    · cases h
    · cases h
    · cases h
    · split at h
      · cases h
      · split at h
        · cases h
          exact Value.separate_scalar _
        · cases h

end Node

theorem separate_of_read {s : Text} {v : Value} (h : read s = .ok v) : v.Separate := by
  rw [read] at h
  split at h
  · cases h
  split at h
  · cases h
  · cases h
    exact Value.separate_scalar _
  · next n _ =>
    cases hn : n.valueFuel (2 * s.length + 2) 0 with
    | error p =>
      rw [hn] at h
      cases h
    | ok w =>
      rw [hn] at h
      cases h
      exact Node.separate_of_valueFuel hn

end Yaml

/-! ## Documents -/

namespace Configuration

theorem separate_of_parseJson {s : Text} {v : Value} (h : parseJson s = .ok v) : v.Separate := by
  rw [parseJson] at h
  split at h
  · next w hw =>
    cases h
    exact Json.separate_of_read hw
  all_goals cases h

theorem separate_of_parseYaml {s : Text} {v : Value} (h : parseYaml s = .ok v) : v.Separate := by
  rw [parseYaml] at h
  cases hs : Yaml.read s with
  | error p =>
    rw [hs] at h
    cases h
  | ok w =>
    rw [hs] at h
    cases h
    exact Yaml.separate_of_read hs

/-- **In the entries of a document no key comes twice**, however deep. -/
theorem separate_of_parse {form : Form} {bs : Bytes} {es : Entries} (h : parse form bs = .ok es) :
    es.Separate := by
  obtain ⟨v, hv, hes⟩ := exists_of_bind_eq_ok h
  have hseparate : v.Separate := by
    cases form with
    | json => exact separate_of_parseJson hv
    | yaml => exact separate_of_parseYaml hv
    | either =>
      rw [parseValue] at hv
      split at hv
      · exact separate_of_parseYaml hv
      · exact separate_of_parseJson hv
  rw [entriesOf.eq_def] at hes
  split at hes
  · cases hes
    exact separate_nil
  · cases hes
    exact hseparate _ rfl
  · cases hes

end Configuration

end HiveScript
