import HiveScript.Disk.Path
import HiveScript.Proofs.Text.Parts

/-!
# Written paths

A path that is read from a text is made of names without slashes, and it is read again from the text
it is written as.

* `Path.WellFormed`: the paths that can be read; `wellFormed_ofText`, `WellFormed.expandHome`.
* **`ofText_text`**: reading what is written.
* `exists_ofText_eq_child`: the end of the last name of a text.
* `text_ofText`: a path that is read and written again has no further points;
  `checkPath_text_ofText`.
-/

namespace HiveScript.Path

/-- The root is one of those that are written, and the names are names. -/
structure WellFormed (p : Path) : Prop where
  root : p.root = [] ∨ p.root = [slash] ∨ p.root = [slash, slash]
  names : ∀ n ∈ p.names, isName n = true ∧ slash ∉ n

theorem isName_of_lt : ∀ {n : Text}, 1 < n.length → isName n = true
  | [], h => absurd h (Nat.not_lt_zero 1)
  | [_], h => absurd h (Nat.lt_irrefl 1)
  | _ :: _ :: _, _ => by simp [isName]

/-! ## Paths that can be read -/

theorem wellFormed_ofText (s : Text) : (ofText s).WellFormed := by
  constructor
  · have hslash : ∀ p ∈ s.takeWhile (· = slash), p = slash := fun p hp => by
      simpa using List.mem_takeWhile_imp hp
    change rootOf s = [] ∨ rootOf s = [slash] ∨ rootOf s = [slash, slash]
    rw [rootOf]
    split
    · exact .inl rfl
    · next a b h =>
      rw [h] at hslash
      rw [hslash a (by simp), hslash b (by simp)]
      exact .inr (.inr rfl)
    · next a _ _ h =>
      rw [h] at hslash
      rw [hslash a (by simp)]
      exact .inr (.inl rfl)
  · intro n hn
    obtain ⟨hn, hname⟩ := List.mem_filter.mp hn
    exact ⟨hname, fun h => absurd (Text.sep_eq_false_of_mem_fields hn h) (by simp)⟩

namespace WellFormed

variable {p q : Path}

theorem child (hp : p.WellFormed) {n : Text} (hn : isName n = true) (hslash : slash ∉ n) :
    (p.child n).WellFormed := by
  refine ⟨hp.root, fun m hm => ?_⟩
  rcases List.mem_append.mp hm with hm | hm
  · exact hp.names m hm
  · rw [List.mem_singleton.mp hm]
    exact ⟨hn, hslash⟩

theorem expandHome {home : Text} (hp : p.WellFormed) (h : p.expandHome home = .ok q) :
    q.WellFormed := by
  rw [Path.expandHome] at h
  split at h
  · next first rest hroot hnames =>
    split_ifs at h
    · cases h
      have hhome := wellFormed_ofText home
      refine ⟨hhome.root, fun n hn => ?_⟩
      rcases List.mem_append.mp hn with hn | hn
      · exact hhome.names n hn
      · exact hp.names n (by rw [hnames]; exact List.mem_cons_of_mem first hn)
    · cases h
      exact hp
  · cases h
    exact hp

end WellFormed

/-! ## Reading what is written -/

/-- Names with slashes between them do not begin with a slash. -/
theorem head?_join_ne {ns : List Text} (hns : ∀ n ∈ ns, isName n = true ∧ slash ∉ n) :
    (Text.join [slash] ns).head? ≠ some slash := by
  cases ns with
  | nil => exact nofun
  | cons n ns =>
    obtain ⟨hname, hslash⟩ := hns n List.mem_cons_self
    have hn : (Text.join [slash] (n :: ns)).head? = n.head? := by
      cases n with
      | nil => exact absurd hname (by decide)
      | cons a n => cases ns <;> rfl
    rw [hn]
    exact fun h => hslash (List.mem_of_mem_head? h)

theorem takeWhile_join {ns : List Text} (hns : ∀ n ∈ ns, isName n = true ∧ slash ∉ n) :
    (Text.join [slash] ns).takeWhile (· = slash) = [] := by
  have hhead := head?_join_ne hns
  cases h : Text.join [slash] ns with
  | nil => rfl
  | cons a s =>
    rw [h] at hhead
    exact List.takeWhile_cons_of_neg (by simpa using hhead)

/-- The fields of a written path are its names, and empty ones before them. -/
theorem exists_fields_text {p : Path} (hp : p.WellFormed) (hne : p.names ≠ []) :
    ∃ k, p.text.fields (· = slash) = List.replicate k [] ++ p.names := by
  have hjoin : (Text.join [slash] p.names).fields (· = slash) = p.names :=
    Text.fields_join (decide_eq_true rfl) hne fun n hn a ha =>
      decide_eq_false fun h => (hp.names n hn).2 (h ▸ ha)
  have hslash : ∀ s : Text, Text.fields (· = slash) (slash :: s) =
      [] :: Text.fields (· = slash) s :=
    Text.fields_cons_of_sep (decide_eq_true rfl)
  have htext : p.text = p.root ++ Text.join [slash] p.names := if_neg (by simp [hne])
  rw [htext]
  rcases hp.root with h | h | h
  · exact ⟨0, by rw [h, List.nil_append, hjoin]; rfl⟩
  · exact ⟨1, by rw [h, List.singleton_append, hslash, hjoin]; rfl⟩
  · exact ⟨2, by rw [h, List.cons_append, List.singleton_append, hslash, hslash, hjoin]; rfl⟩

theorem rootOf_text {p : Path} (hp : p.WellFormed) (hne : p.names ≠ []) :
    rootOf p.text = p.root := by
  have hjoin := takeWhile_join hp.names
  have hslash : ∀ s : Text, List.takeWhile (· = slash) (slash :: s) =
      slash :: List.takeWhile (· = slash) s :=
    fun s => List.takeWhile_cons_of_pos (decide_eq_true rfl)
  have htext : p.text = p.root ++ Text.join [slash] p.names := if_neg (by simp [hne])
  rw [htext, rootOf]
  rcases hp.root with h | h | h
  · rw [h, List.nil_append, hjoin]
  · rw [h, List.singleton_append, hslash, hjoin]
  · rw [h, List.cons_append, List.singleton_append, hslash, hslash, hjoin]

/-- **A path is read again from the text it is written as.** -/
theorem ofText_text {p : Path} (hp : p.WellFormed) : ofText p.text = p := by
  by_cases hne : p.names = []
  · obtain ⟨root, names⟩ := p
    obtain rfl : names = [] := hne
    rcases hp.root with h | h | h
    all_goals
      obtain rfl : root = _ := h
      decide
  · obtain ⟨k, hk⟩ := exists_fields_text hp hne
    have hblank : (List.replicate k ([] : Text)).filter isName = [] :=
      List.filter_eq_nil_iff.mpr fun n hn => by
        rw [List.eq_of_mem_replicate hn]
        decide
    rw [ofText, rootOf_text hp hne, hk, List.filter_append, hblank, List.nil_append,
      List.filter_eq_self.mpr fun n hn => (hp.names n hn).1]

/-- What ends a text ends its last name, if it can be the end of a name. -/
theorem exists_ofText_eq_child {e : Text} (hslash : slash ∉ e) (hlength : 1 < e.length) (s : Text) :
    ∃ p n, ofText (s ++ e) = child p n ∧ e <:+ n := by
  have hsep : ∀ a ∈ e, decide (a = slash) = false :=
    fun a ha => decide_eq_false fun h => hslash (h ▸ ha)
  obtain ⟨ws, w, h⟩ := Text.exists_fields_append hsep s
  have hname : isName (w ++ e) = true := isName_of_lt (by rw [List.length_append]; omega)
  refine ⟨⟨rootOf (s ++ e), ws.filter isName⟩, w ++ e, ?_, List.suffix_append w e⟩
  rw [ofText, child, h, List.filter_append, List.filter_cons_of_pos hname, List.filter_nil]

/-! ## Points of a path -/

theorem names_ofText_dropWhile (s : Text) :
    (ofText (s.dropWhile (· = slash))).names = (ofText s).names := by
  change (Text.fields _ _).filter isName = (Text.fields _ _).filter isName
  have hdrop : ∀ s : Text, List.dropWhile (· = slash) (slash :: s) =
      List.dropWhile (· = slash) s :=
    fun s => List.dropWhile_cons_of_pos (decide_eq_true rfl)
  induction s with
  | nil => rfl
  | cons p s ih =>
    by_cases hp : p = slash
    · rw [hp, hdrop, Text.fields_cons_of_sep (decide_eq_true rfl),
        List.filter_cons_of_neg (by decide), ih]
    · rw [List.dropWhile_cons_of_neg (by simpa using hp)]

theorem rootOf_sublist (s : Text) : List.Sublist (rootOf s) (s.takeWhile (· = slash)) := by
  rw [rootOf]
  split
  · exact List.nil_sublist _
  · next h =>
    rw [h]
  · next a _ _ h =>
    rw [h]
    exact (List.nil_sublist _).cons_cons a

/-- To read and write a path adds no points, but for the dot of an empty one. -/
theorem text_ofText (s : Text) : (ofText s).text = [dot] ∨ List.Sublist (ofText s).text s := by
  rw [text]
  split_ifs with h
  · exact .inl rfl
  · right
    have hnames : List.Sublist (Text.join [slash] (ofText s).names) (s.dropWhile (· = slash)) := by
      have hjoin := Text.join_filter_sublist [slash] isName
        (Text.fields (· = slash) (s.dropWhile (· = slash)))
      rw [Text.join_fields] at hjoin
      rw [← names_ofText_dropWhile]
      exact hjoin
    have happend := (rootOf_sublist s).append hnames
    rwa [List.takeWhile_append_dropWhile] at happend

theorem text_ne_nil {p : Path} (hp : p.WellFormed) : p.text ≠ [] := by
  intro h
  have hempty : p = ofText [] := by rw [← ofText_text hp, h]
  rw [hempty] at h
  cases h

/-- The fields of a written path are its names behind such as are none. -/
theorem exists_fields_text_append {p : Path} (hp : p.WellFormed) :
    ∃ as, (∀ n ∈ as, isName n = false) ∧ p.text.fields (· = slash) = as ++ p.names := by
  by_cases hne : p.names = []
  · have hnames : (p.text.fields (· = slash)).filter isName = [] :=
      (congrArg names (ofText_text hp)).trans hne
    exact ⟨p.text.fields (· = slash), by simpa using List.filter_eq_nil_iff.mp hnames,
      by rw [hne, List.append_nil]⟩
  · obtain ⟨k, hk⟩ := exists_fields_text hp hne
    refine ⟨_, fun n hn => ?_, hk⟩
    rw [List.eq_of_mem_replicate hn]
    rfl

end HiveScript.Path

namespace HiveScript

theorem checkPath_eq_ok_iff {s : Text} :
    checkPath s = .ok () ↔ ∀ p ∈ s, p.isUnfitForPath = false ∧ p ≠ Point.nul := by
  rw [checkPath]
  split
  · next p rest h =>
    refine iff_of_false nofun fun hall => ?_
    have hp : p ∈ s := (List.dropWhile_suffix _).mem (h ▸ List.mem_cons_self)
    have hunfit := List.head?_dropWhile_not (fun p : Point => !p.isUnfitForPath) s
    rw [h] at hunfit
    simp [(hall p hp).1] at hunfit
  · next h =>
    have hfit : ∀ p ∈ s, p.isUnfitForPath = false := by
      simpa using List.dropWhile_eq_nil_iff.mp h
    rw [List.contains_eq_mem]
    split_ifs with hnul
    · exact iff_of_false nofun fun hall => (hall _ (by simpa using hnul)).2 rfl
    · exact iff_of_true rfl fun p hp => ⟨hfit p hp, fun he => hnul (by simpa [← he] using hp)⟩

theorem checkPath_text_ofText {s : Text} (h : checkPath s = .ok ()) :
    checkPath (Path.ofText s).text = .ok () := by
  rcases Path.text_ofText s with hdot | hsub
  · rw [hdot]
    rfl
  · rw [checkPath_eq_ok_iff] at h ⊢
    exact fun p hp => h p (hsub.mem hp)

end HiveScript
