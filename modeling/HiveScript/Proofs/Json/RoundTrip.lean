import HiveScript.Proofs.Json.Denotation
import HiveScript.Proofs.Results

/-!
# Reports there and back

Arrays and objects are read as their parts, in any layout.

* `readItems_join`, `readFields_join`: parts with separators between them.
* `collect`: what the fields of an object come to.
* `reads_array`, `reads_object`: parts between brackets.
* **`denotes_list`**, **`denotes_object`**: lists and objects denote what their parts denote.
* **`Denotes.read`**: a whole report.
-/

namespace HiveScript.Json

/-! ## Breaks -/

theorem skipSpaces_cons {p : Point} (hp : isSpace p = false) (s : Text) :
    skipSpaces (p :: s) = p :: s :=
  List.dropWhile_cons_of_neg (Bool.eq_false_iff.mp hp)

variable (l : Layout) {height : Nat}

theorem skipSpaces_breakAt (depth : Nat) (s : Text) :
    skipSpaces (l.breakAt depth ++ s) = skipSpaces s := by
  rw [Layout.breakAt]
  cases l.indent with
  | none => rfl
  | some n =>
    refine List.dropWhile_append_of_pos fun p hp => ?_
    rcases List.mem_cons.mp hp with rfl | hp
    · decide
    · rw [List.eq_of_mem_replicate hp]
      decide

/-- What stands after the comma between two items. -/
def gap (l : Layout) (depth : Nat) : Text :=
  match l.indent with
  | none => [Point.space]
  | some _ => l.breakAt depth

theorem separator_append (depth : Nat) (s : Text) :
    l.separator depth ++ s = Point.ofChar ',' :: (gap l depth ++ s) := by
  rw [Layout.separator, gap]
  cases l.indent <;> rfl

theorem skipSpaces_gap (depth : Nat) (s : Text) : skipSpaces (gap l depth ++ s) = skipSpaces s := by
  rw [gap]
  split
  · exact List.dropWhile_cons_of_pos (by decide)
  · exact skipSpaces_breakAt l depth s

theorem Reads.skipSpaces_append {t : Text} {v : Value} (h : Reads height t v)
    (s : Text) : skipSpaces (t ++ s) = t ++ s := by
  obtain ⟨p, t', rfl, hspace, -⟩ := h.head
  exact skipSpaces_cons hspace _

/-- What is joined begins with its first part. -/
theorem exists_join_eq (sep t : Text) (ts : List Text) :
    ∃ more, Text.join sep (t :: ts) = t ++ more := by
  cases ts with
  | nil => exact ⟨[], (List.append_nil t).symm⟩
  | cons t' ts => exact ⟨_, (Text.join_cons_cons sep t t' ts).trans (List.append_assoc _ _ _)⟩

theorem closed_cons {p : Point} (hp : p.isDigit = false ∧ p ≠ Point.ofChar '.' ∧
    p ≠ Point.ofChar 'e' ∧ p ≠ Point.ofChar 'E') (s : Text) : Closed (p :: s) := by
  rintro q ⟨⟩
  exact hp

theorem closed_breakAt (depth : Nat) {p : Point} (hp : p.isDigit = false ∧ p ≠ Point.ofChar '.' ∧
    p ≠ Point.ofChar 'e' ∧ p ≠ Point.ofChar 'E') (s : Text) :
    Closed (l.breakAt depth ++ p :: s) := by
  rw [Layout.breakAt]
  cases l.indent with
  | none => exact closed_cons hp s
  | some n => exact closed_cons (by decide) _

theorem length_separator_pos (depth : Nat) : 0 < (l.separator depth).length := by
  rw [← List.append_nil (l.separator depth), separator_append]
  exact Nat.succ_pos _

theorem closed_separator (depth : Nat) (s : Text) : Closed (l.separator depth ++ s) := by
  rw [separator_append]
  exact closed_cons (by decide) _

/-! ## Arrays -/

/-- The items of an array up to its bracket. -/
theorem readItems_join {ts : List Text} {vs : List Value} (hall : List.Forall₂ (Reads height) ts vs)
    (hne : ts ≠ []) {depth fuel : Nat} (hdepth : depth + height ≤ deepest) (k j : Nat)
    (hfuel : (Text.join (l.separator k) ts).length < fuel) (rest : Text) :
    readItems depth fuel (Text.join (l.separator k) ts ++
      (l.breakAt j ++ Point.ofChar ']' :: rest)) = .ok (vs, rest) := by
  induction hall generalizing fuel with
  | nil => exact absurd rfl hne
  | @cons t v ts vs h hall ih =>
    obtain ⟨fuel, rfl⟩ := Nat.exists_eq_succ_of_ne_zero (Nat.ne_zero_of_lt hfuel)
    cases hall with
    | nil =>
      have hlength : t.length ≤ fuel := Nat.le_of_lt_succ hfuel
      rw [Text.join, readItems,
        h.readValue_eq depth fuel _ hdepth hlength (closed_breakAt l _ (by decide) _)]
      dsimp only [bind, Except.bind]
      rw [skipSpaces_breakAt, skipSpaces_cons (by decide)]
      rfl
    | @cons t' v' ts vs h' hall =>
      rw [Text.join_cons_cons, List.length_append, List.length_append] at hfuel
      rw [Text.join_cons_cons, List.append_assoc, List.append_assoc, readItems,
        h.readValue_eq depth fuel _ hdepth (by omega) (closed_separator l _ _)]
      have hseparator := length_separator_pos l k
      have hshorter : (Text.join (l.separator k) (t' :: ts)).length < fuel := by omega
      have hrest := ih (List.cons_ne_nil _ _) hshorter
      dsimp only [bind, Except.bind]
      rw [separator_append, skipSpaces_cons (by decide)]
      dsimp only
      obtain ⟨more, hmore⟩ := exists_join_eq (l.separator k) t' ts
      rw [if_neg (by decide), if_pos rfl, skipSpaces_gap, hmore, List.append_assoc,
        h'.skipSpaces_append, ← List.append_assoc, ← hmore, hrest]
      rfl

theorem readValue_array {depth fuel : Nat} {q : Point} {s u rest : Text} {vs : List Value}
    (hdepth : depth < deepest) (hs : skipSpaces s = q :: u)
    (h : (if q = Point.ofChar ']' then .ok ([], u) else readItems (depth + 1) fuel (q :: u)) =
      .ok (vs, rest)) :
    readValue depth (fuel + 1) (Point.ofChar '[' :: s) = .ok (.list vs, rest) := by
  have hquote : Point.ofChar '[' ≠ Point.quotationMark := by decide
  have hbrace : Point.ofChar '[' ≠ Point.openBrace := by decide
  rw [readValue]
  simp only [if_neg hquote, if_neg hbrace, if_true, if_neg (not_le.mpr hdepth), hs]
  split_ifs at h ⊢
  · cases h
    rfl
  · rw [h]
    rfl

theorem enclose_append {depth : Nat} {opening closing : Point} {ts : List Text} (hne : ts ≠ [])
    (rest : Text) : l.enclose depth opening closing ts ++ rest =
      opening :: (l.breakAt (depth + 1) ++
        (Text.join (l.separator (depth + 1)) ts ++
          (l.breakAt depth ++ closing :: rest))) := by
  rw [Layout.enclose, if_neg (by simpa using hne)]
  simp only [List.append_assoc, List.cons_append, List.nil_append]

theorem length_enclose {depth : Nat} {opening closing : Point} {ts : List Text} (hne : ts ≠ []) :
    (Text.join (l.separator (depth + 1)) ts).length + 2 ≤
      (l.enclose depth opening closing ts).length := by
  rw [Layout.enclose, if_neg (by simpa using hne)]
  simp only [List.length_append, List.length_singleton]
  omega

theorem enclose_ne_nil (depth : Nat) (opening closing : Point) (ts : List Text) :
    ∃ t, l.enclose depth opening closing ts = opening :: t := by
  rw [Layout.enclose]
  split_ifs <;> exact ⟨_, rfl⟩

theorem isAscii_enclose {depth : Nat} {opening closing : Point} (hopening : opening.val < 0x80)
    (hclosing : closing.val < 0x80) {ts : List Text} (hts : ∀ t ∈ ts, t.IsAscii) :
    (Layout.report.enclose depth opening closing ts).IsAscii := by
  have hbreak : ∀ depth, (Layout.report.breakAt depth).IsAscii := fun depth =>
    List.forall_mem_cons.mpr ⟨by decide, fun _ hp => List.eq_of_mem_replicate hp ▸ by decide⟩
  have hseparator : (Layout.report.separator (depth + 1)).IsAscii :=
    List.forall_mem_cons.mpr ⟨by decide, hbreak _⟩
  have hopening' : Text.IsAscii [opening] := List.forall_mem_singleton.mpr hopening
  have hclosing' : Text.IsAscii [closing] := List.forall_mem_singleton.mpr hclosing
  rw [Layout.enclose]
  split_ifs
  · exact hopening'.append hclosing'
  · exact (((hopening'.append (hbreak _)).append (Text.IsAscii.join hseparator hts)).append
      (hbreak _)).append hclosing'

/-- **An array is read as its items.** -/
theorem reads_array {ts : List Text} {vs : List Value} (hall : List.Forall₂ (Reads height) ts vs)
    (depth : Nat) : Reads (height + 1)
      (l.enclose depth (Point.ofChar '[') (Point.ofChar ']') ts) (.list vs) where
  head := by
    obtain ⟨t, ht⟩ := enclose_ne_nil l depth (Point.ofChar '[') (Point.ofChar ']') ts
    exact ⟨_, t, ht, by decide, by decide⟩
  readValue_eq d fuel rest hdepth hfuel _ := by
    have hroom : d < deepest := by omega
    cases fuel with
    | zero =>
      obtain ⟨t, ht⟩ := enclose_ne_nil l depth (Point.ofChar '[') (Point.ofChar ']') ts
      rw [ht] at hfuel
      exact absurd hfuel (Nat.not_succ_le_zero _)
    | succ fuel =>
      cases hall with
      | nil => exact readValue_array hroom (skipSpaces_cons (by decide) rest) (if_pos rfl)
      | @cons t v ts vs h hall =>
        have hne : t :: ts ≠ [] := List.cons_ne_nil t ts
        have hshorter : (Text.join (l.separator (depth + 1)) (t :: ts)).length + 2 ≤
            (l.enclose depth (Point.ofChar '[') (Point.ofChar ']') (t :: ts)).length :=
          length_enclose l hne
        have hlength :
            (Text.join (l.separator (depth + 1)) (t :: ts)).length < fuel := by omega
        have hitems := readItems_join l (.cons h hall) hne (by omega : d + 1 + height ≤ deepest)
          (depth + 1) depth hlength rest
        obtain ⟨q, u, rfl, hspace, hq⟩ := h.head
        obtain ⟨more, hmore⟩ := exists_join_eq (l.separator (depth + 1)) (q :: u) ts
        rw [enclose_append l hne]
        rw [hmore, List.append_assoc, List.cons_append] at hitems ⊢
        refine readValue_array hroom ?_ ((if_neg hq).trans hitems)
        rw [skipSpaces_breakAt, skipSpaces_cons hspace]

theorem writeItems_eq_mapM (l : Layout) (depth : Nat) (vs : List Value) :
    writeItems l depth vs = vs.mapM (write l depth) := by
  induction vs with
  | nil =>
    rw [writeItems, List.mapM_nil]
    rfl
  | cons v vs ih => rw [writeItems, List.mapM_cons, ih]

/-- Values with their reports. -/
theorem Denotes.forall₂ {vs vs' : List Value} (hall : List.Forall₂ (Denotes height) vs vs')
    {depth : Nat} {ts : List Text}
    (hts : List.Forall₂ (fun v t => write .report depth v = .ok t) vs ts) :
    (∀ t ∈ ts, t.IsAscii) ∧ List.Forall₂ (Reads height) ts vs' := by
  induction hall generalizing ts with
  | nil =>
    cases hts
    exact ⟨nofun, .nil⟩
  | cons h _ ih =>
    cases hts with
    | cons ht hts =>
      obtain ⟨hascii, hreads⟩ := ih hts
      obtain ⟨hascii', hreads'⟩ := h depth _ ht
      exact ⟨List.forall_mem_cons.mpr ⟨hascii', hascii⟩, .cons hreads' hreads⟩

/-- **A list denotes what its items denote.** -/
theorem denotes_list {vs vs' : List Value} (hall : List.Forall₂ (Denotes height) vs vs') :
    Denotes (height + 1) (.list vs) (.list vs') := by
  intro depth t ht
  rw [write, writeItems_eq_mapM] at ht
  obtain ⟨ts, hts, ht⟩ := exists_of_bind_eq_ok ht
  obtain rfl := Except.ok.inj ht
  obtain ⟨hascii, hreads⟩ := Denotes.forall₂ hall (forall₂_of_mapM_eq_ok hts)
  exact ⟨isAscii_enclose (by decide) (by decide) hascii, reads_array .report hreads depth⟩

/-! ## Objects -/

/-- A field is read as a name and a value. -/
def ReadsField (height : Nat) (t : Text) (e : Text × Value) : Prop :=
  ∃ body w, t = quoted body ++ ": " ++ w ∧ Spells body e.1 ∧ Reads height w e.2

/-- One field before what ends it. -/
theorem readFields_field {t : Text} {e : Text × Value} (h : ReadsField height t e)
    {depth fuel : Nat} (hdepth : depth + height ≤ deepest) (hfuel : t.length ≤ fuel)
    {s u : Text} {q : Point} (hclosed : Closed s) (hs : skipSpaces s = q :: u) (es : Entries) :
    readFields depth (fuel + 1) es (t ++ s) =
      if q = Point.closeBrace then .ok (es.put (.text e.1) e.2, u)
      else if q = Point.ofChar ',' then
        readFields depth fuel (es.put (.text e.1) e.2) (skipSpaces u)
      else fail .noComma (q :: u) := by
  obtain ⟨body, w, rfl, hname, hw⟩ := h
  have hlength : w.length ≤ fuel := by
    rw [List.length_append] at hfuel
    omega
  have hfield : quoted body ++ ": " ++ w ++ s = Point.quotationMark ::
      (body ++ Point.quotationMark :: (Point.ofChar ':' :: Point.space :: (w ++ s))) := by
    rw [List.append_assoc, List.append_assoc, quoted_append]
    rfl
  have hvalue : skipSpaces (Point.space :: (w ++ s)) = w ++ s :=
    (List.dropWhile_cons_of_pos (by decide)).trans (hw.skipSpaces_append s)
  rw [hfield, readFields]
  simp only [if_true, hname _ _]
  dsimp only [bind, Except.bind]
  rw [skipSpaces_cons (by decide)]
  simp only [if_true, hvalue, hw.readValue_eq depth fuel s hdepth hlength hclosed, hs]
  rfl

/-- Puts a field over those that there are. -/
def putField (es : Entries) (e : Text × Value) : Entries := es.put (.text e.1) e.2

/-- What the fields of an object come to: of fields of one name the last one counts. -/
def collect (fields : List (Text × Value)) : Entries := fields.foldl putField []

/-- A field as an entry. -/
def entry (e : Text × Value) : Scalar × Value := (.text e.1, e.2)

/-- A new name comes after those that are there. -/
theorem putField_map_entry {es : List (Text × Value)} {e : Text × Value}
    (he : e.1 ∉ es.map Prod.fst) : putField (es.map entry) e = (es ++ [e]).map entry := by
  induction es with
  | nil => rfl
  | cons e' es ih =>
    rw [List.map_cons, List.mem_cons, not_or] at he
    have hne : (entry e').1.equals (.text e.1) = false := by
      simp [entry, Scalar.equals, Scalar.int?, Ne.symm he.1]
    have hrest := ih he.2
    rw [putField] at hrest ⊢
    rw [List.map_cons, Entries.put, hne, hrest]
    rfl

/-- Fields of different names all count. -/
theorem foldl_putField {done es : List (Text × Value)}
    (hnodup : ((done ++ es).map Prod.fst).Nodup) :
    es.foldl putField (done.map entry) = (done ++ es).map entry := by
  induction es generalizing done with
  | nil => rw [List.foldl_nil, List.append_nil]
  | cons e es ih =>
    have hnew : e.1 ∉ done.map Prod.fst := by
      rw [List.map_append, List.map_cons] at hnodup
      exact fun hmem => (List.nodup_append.mp hnodup).2.2 _ hmem _ List.mem_cons_self rfl
    have hnodup' : ((done ++ [e] ++ es).map Prod.fst).Nodup := by
      rwa [List.append_assoc, List.singleton_append]
    rw [List.foldl_cons, putField_map_entry hnew, ih hnodup', List.append_assoc,
      List.singleton_append]

theorem collect_of_nodup {es : List (Text × Value)} (hnodup : (es.map Prod.fst).Nodup) :
    collect es = es.map entry := by
  have hnodup' : (([] ++ es).map Prod.fst).Nodup := hnodup
  exact foldl_putField hnodup'

/-- One field before others. -/
theorem readFields_cons {t t' : Text} {e : Text × Value} (h : ReadsField height t e)
    (ht' : t'.head? = some Point.quotationMark) {depth fuel : Nat}
    (hdepth : depth + height ≤ deepest) (hfuel : t.length ≤ fuel) (k : Nat) (ts : List Text)
    (es : Entries) (rest : Text) :
    readFields depth (fuel + 1) es (Text.join (l.separator k) (t :: t' :: ts) ++ rest) =
      readFields depth fuel (es.put (.text e.1) e.2)
        (Text.join (l.separator k) (t' :: ts) ++ rest) := by
  have hs : skipSpaces (l.separator k ++ (Text.join (l.separator k) (t' :: ts) ++ rest)) =
      Point.ofChar ',' :: (gap l k ++ (Text.join (l.separator k) (t' :: ts) ++ rest)) := by
    rw [separator_append, skipSpaces_cons (by decide)]
  have hnext : skipSpaces (Text.join (l.separator k) (t' :: ts) ++ rest) =
      Text.join (l.separator k) (t' :: ts) ++ rest := by
    obtain ⟨more, hmore⟩ := exists_join_eq (l.separator k) t' ts
    obtain ⟨t', rfl⟩ := List.head?_eq_some_iff.mp ht'
    rw [hmore]
    exact skipSpaces_cons (by decide) _
  rw [Text.join_cons_cons, List.append_assoc, List.append_assoc,
    readFields_field h hdepth hfuel (closed_separator l _ _) hs, if_neg (by decide), if_pos rfl,
    skipSpaces_gap, hnext]

theorem ReadsField.head?_eq {t : Text} {e : Text × Value} (h : ReadsField height t e) :
    t.head? = some Point.quotationMark := by
  obtain ⟨body, w, rfl, -⟩ := h
  rfl

/-- The fields of an object up to its brace. -/
theorem readFields_join {ts : List Text} {es : List (Text × Value)}
    (hall : List.Forall₂ (ReadsField height) ts es) (hne : ts ≠ []) {depth fuel : Nat}
    (hdepth : depth + height ≤ deepest) (k j : Nat)
    (hfuel : (Text.join (l.separator k) ts).length < fuel) (done : Entries) (rest : Text) :
    readFields depth fuel done (Text.join (l.separator k) ts ++
      (l.breakAt j ++ Point.closeBrace :: rest)) = .ok (es.foldl putField done, rest) := by
  induction hall generalizing done fuel with
  | nil => exact absurd rfl hne
  | @cons t e ts es h hall ih =>
    obtain ⟨fuel, rfl⟩ := Nat.exists_eq_succ_of_ne_zero (Nat.ne_zero_of_lt hfuel)
    cases hall with
    | nil =>
      have hs : skipSpaces (l.breakAt j ++ Point.closeBrace :: rest) = Point.closeBrace :: rest :=
        (skipSpaces_breakAt l _ _).trans (skipSpaces_cons (by decide) _)
      rw [Text.join, readFields_field h hdepth (Nat.le_of_lt_succ hfuel)
        (closed_breakAt l _ (by decide) _) hs, if_pos rfl]
      rfl
    | @cons t' e' ts es h' hall =>
      rw [Text.join_cons_cons, List.length_append, List.length_append] at hfuel
      have hseparator := length_separator_pos l k
      have hshorter : (Text.join (l.separator k) (t' :: ts)).length < fuel := by omega
      rw [readFields_cons l h h'.head?_eq hdepth (by omega), ih (List.cons_ne_nil _ _) hshorter]
      rfl

/-- An object with fields is read as they are. -/
theorem readValue_object {t : Text} (ht : t.head? = some Point.quotationMark) (ts : List Text)
    {d : Nat} (hroom : d < deepest) (depth fuel : Nat) (rest : Text) :
    readValue d (fuel + 1) (l.enclose depth Point.openBrace Point.closeBrace (t :: ts) ++ rest) =
      (readFields (d + 1) fuel [] (Text.join (l.separator (depth + 1)) (t :: ts) ++
        (l.breakAt depth ++ Point.closeBrace :: rest))).map fun (es, rest) => (.map es, rest) := by
  have hquote : Point.openBrace ≠ Point.quotationMark := by decide
  have hclose : Point.quotationMark ≠ Point.closeBrace := by decide
  obtain ⟨t, rfl⟩ := List.head?_eq_some_iff.mp ht
  obtain ⟨more, hmore⟩ := exists_join_eq (l.separator (depth + 1)) (Point.quotationMark :: t) ts
  rw [enclose_append l (List.cons_ne_nil _ _), hmore, List.cons_append, List.cons_append, readValue]
  simp only [if_neg hquote, if_true, if_neg (not_le.mpr hroom)]
  rw [skipSpaces_breakAt, skipSpaces_cons (by decide)]
  exact if_neg hclose

/-- **An object is read as what its fields come to.** -/
theorem reads_object {ts : List Text} {es : List (Text × Value)}
    (hall : List.Forall₂ (ReadsField height) ts es) (depth : Nat) : Reads (height + 1)
      (l.enclose depth Point.openBrace Point.closeBrace ts) (.map (collect es)) where
  head := by
    obtain ⟨t, ht⟩ := enclose_ne_nil l depth Point.openBrace Point.closeBrace ts
    exact ⟨_, t, ht, by decide, by decide⟩
  readValue_eq d fuel rest hdepth hfuel _ := by
    have hroom : d < deepest := by omega
    cases fuel with
    | zero =>
      obtain ⟨t, ht⟩ := enclose_ne_nil l depth Point.openBrace Point.closeBrace ts
      rw [ht] at hfuel
      exact absurd hfuel (Nat.not_succ_le_zero _)
    | succ fuel =>
      cases hall with
      | nil =>
        have hempty : l.enclose depth Point.openBrace Point.closeBrace [] ++ rest =
            Point.openBrace :: Point.closeBrace :: rest := rfl
        have hquote : Point.openBrace ≠ Point.quotationMark := by decide
        rw [hempty, readValue]
        simp only [if_neg hquote, if_true, if_neg (not_le.mpr hroom)]
        rw [skipSpaces_cons (by decide)]
        exact if_pos rfl
      | @cons t e ts es h hall =>
        have hne : t :: ts ≠ [] := List.cons_ne_nil t ts
        have hlength : (Text.join (l.separator (depth + 1)) (t :: ts)).length + 2 ≤
            (l.enclose depth Point.openBrace Point.closeBrace (t :: ts)).length :=
          length_enclose l hne
        have hfields := readFields_join l (.cons h hall) hne
          (by omega : d + 1 + height ≤ deepest) (depth + 1) depth
          (by omega : (Text.join (l.separator (depth + 1)) (t :: ts)).length < fuel) [] rest
        rw [readValue_object l h.head?_eq ts hroom, hfields]
        rfl

theorem writeFields_eq_map (l : Layout) (depth : Nat) (es : List (Scalar × Value)) :
    writeFields l depth es = es.map fun e =>
      (e.1, do return (← key l.ascii e.1) ++ ": " ++ (← write l depth e.2)) := by
  induction es with
  | nil => rw [writeFields, List.map_nil]
  | cons e es ih => rw [writeFields, List.map_cons, ih]

/-- A field has a name that comes back as it is, and its value denotes another one. -/
structure DenotesField (height : Nat) (e e' : Text × Value) : Prop where
  name_eq : e'.1 = e.1
  unpaired : Utf16.Unpaired e.1
  value : Denotes height e.2 e'.2

/-- The texts of fields. -/
theorem forall₂_fields {es es' : List (Text × Value)} {depth : Nat} {ts : List Text}
    (hall : List.Forall₂ (DenotesField height) es es')
    (hts : List.Forall₂ (fun f t => f.2 = .ok t) (writeFields .report depth (es.map entry)) ts) :
    (∀ t ∈ ts, t.IsAscii) ∧ List.Forall₂ (ReadsField height) ts es' := by
  rw [writeFields_eq_map, List.map_map] at hts
  induction hall generalizing ts with
  | nil =>
    cases hts
    exact ⟨nofun, .nil⟩
  | @cons e e' es es' h _ ih =>
    rw [List.map_cons] at hts
    cases hts with
    | cons ht hts =>
      obtain ⟨hname, hunpaired, hvalue⟩ := h
      obtain ⟨hascii, hreads⟩ := ih hts
      obtain ⟨name, hkey, ht⟩ := exists_of_bind_eq_ok ht
      obtain ⟨w, hw, ht⟩ := exists_of_bind_eq_ok ht
      obtain rfl := Except.ok.inj hkey
      obtain rfl := Except.ok.inj ht
      obtain ⟨hascii', hreads'⟩ := hvalue depth w hw
      refine ⟨List.forall_mem_cons.mpr ⟨?_, hascii⟩, .cons ⟨_, w, rfl, ?_, hreads'⟩ hreads⟩
      · exact ((isAscii_string e.1).append (by decide)).append hascii'
      · have hspells := spells_string e.1
        rw [Utf16.pairUp_flatMap_unitsOf hunpaired] at hspells
        exact hname ▸ hspells

/-- **An object denotes its fields in the order in which they are written.** -/
theorem denotes_object {fields es es' : List (Text × Value)}
    (horder : ∀ depth, order .report (writeFields .report depth (fields.map entry)) =
      .ok (writeFields .report depth (es.map entry)))
    (hall : List.Forall₂ (DenotesField height) es es')
    (hnodup : (es'.map Prod.fst).Nodup) : Denotes (height + 1) (.object fields) (.object es') := by
  intro depth t ht
  have hwrite : write .report depth (.object fields) = (do
      let fs ← order .report (writeFields .report (depth + 1) (fields.map entry))
      return Layout.report.enclose depth Point.openBrace Point.closeBrace (← fs.mapM (·.2))) := by
    rw [Value.object, write]
    rfl
  rw [hwrite, horder] at ht
  obtain ⟨fs, hfs, ht⟩ := exists_of_bind_eq_ok ht
  obtain rfl := Except.ok.inj hfs
  obtain ⟨ts, hts, ht⟩ := exists_of_bind_eq_ok ht
  obtain rfl := Except.ok.inj ht
  obtain ⟨hascii, hreads⟩ := forall₂_fields hall (forall₂_of_mapM_eq_ok hts)
  have hreads := reads_object .report hreads depth
  rw [collect_of_nodup hnodup] at hreads
  exact ⟨isAscii_enclose (by decide) (by decide) hascii, hreads⟩

/-! ## Whole texts -/

theorem Reads.read {t : Text} {v : Value} (h : Reads height t v) (hheight : height ≤ deepest)
    (hmark : t.head? ≠ some Point.byteOrderMark) : Json.read t = .ok v := by
  have hvalue := h.readValue_eq 0 (2 * t.length + 2) [] (by omega) (by omega) nofun
  have hskip := h.skipSpaces_append []
  rw [List.append_nil] at hvalue hskip
  rw [Json.read, if_neg hmark, hskip, hvalue]
  rfl

/-- **A report is read as what its value denotes.** -/
theorem Denotes.read {v v' : Value} (h : Denotes height v v') (hheight : height ≤ deepest)
    {t : Text} (ht : report v = .ok t) : t.IsAscii ∧ Json.read t = .ok v' := by
  obtain ⟨hascii, hreads⟩ := h 0 t ht
  refine ⟨hascii, hreads.read hheight fun hhead => ?_⟩
  exact absurd (hascii _ (List.mem_of_mem_head? hhead)) (by decide)

end HiveScript.Json
