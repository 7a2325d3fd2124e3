import HiveScript.Proofs.Encoding.Escapes
import HiveScript.Proofs.Json.Refusals

/-!
# JSON through the escapes of streams

A stream writes escapes of its own into the strings of a line. Those with four digits are escapes of
JSON too, and all others are none.

* `Encoding.Conveys`: points that come back; in UTF-8 all do.
* `stringForm`: a point of a string on a stream; `pointForm_stringForm`, `illForm_stringForm`.
* **`spells_escaped`**, **`misspells_escaped`**: whole strings.
* `Comes`, `Tells`: what comes back of the line of a value, if anything does.
* `tells_text`, `tells_nat`, **`tells_object`**.
-/

namespace HiveScript

/-- The point comes back from the JSON on a stream: the encoding has it, or writes it as an escape
that JSON has too. -/
def Encoding.Conveys (e : Encoding) (p : Point) : Prop :=
  e.has p = true ∨ 0x100 ≤ p.val ∧ p.val < 0x10000

instance (e : Encoding) (p : Point) : Decidable (e.Conveys p) := inferInstanceAs (Decidable (_ ∨ _))

/-- **In UTF-8 all points come back**, the surrogates through their escapes. -/
theorem Encoding.conveys_utf8 (marked : Bool) (p : Point) : (utf8 marked).Conveys p := by
  by_cases hp : p.isSurrogate = true
  · have hrange : 0xD800 ≤ p.val ∧ p.val ≤ 0xDFFF := by
      simpa [Point.isSurrogate] using hp
    exact .inr (by omega)
  · exact .inl (by rw [has, octets?, if_neg hp, Option.isSome_some])

/-- What a text comes back as from the JSON on a stream. -/
def Encoding.rejoined (e : Encoding) (s : Text) : Text := Json.rejoined (fun p => !e.has p) s

namespace Json

variable {e : Encoding} (he : e.HasBasic)

/-! ## Strings -/

/-- A point of a string on a stream. -/
def stringForm (e : Encoding) (p : Point) : Text := e.escaped (stringPoint false p)

theorem isBasic_stringPoint {p : Point} (hp : p.IsBasic) : (stringPoint false p).IsBasic := by
  have hall : ∀ n < 0x80, n ≠ 0x25 → (stringPoint false (Point.ofNat n)).IsBasic := by
    decide +kernel
  exact Point.ofNat_val p ▸ hall p.val hp.1 hp.2

/-- A point that is not basic stands for itself in a string. -/
theorem stringPoint_of_not_isBasic {p : Point} (hp : ¬ p.IsBasic) : stringPoint false p = [p] := by
  by_cases hlow : p.val < 0x80
  · have hpercent : p = Point.ofNat 0x25 := by
      rw [← Point.ofNat_val p]
      exact congrArg _ (not_not.mp fun hne => hp ⟨hlow, hne⟩)
    subst hpercent
    decide
  · rw [stringPoint_of_ge false (not_lt.mp hlow), if_neg Bool.false_ne_true]

include he

theorem stringForm_of_not_has {p : Point} (hp : e.has p = false) : stringForm e p = p.escape := by
  have hbasic : ¬ p.IsBasic := fun h => Bool.false_ne_true (hp.symm.trans (he p h))
  rw [stringForm, stringPoint_of_not_isBasic hbasic, Encoding.escaped_cons, hp,
    if_neg Bool.false_ne_true]
  exact List.append_nil _

theorem stringForm_of_has {p : Point} (hp : e.has p = true) :
    stringForm e p = stringPoint false p := by
  by_cases hbasic : p.IsBasic
  · exact Encoding.escaped_of_basic he (isBasic_stringPoint hbasic)
  · rw [stringForm, stringPoint_of_not_isBasic hbasic]
    exact Encoding.escaped_of_has (List.forall_mem_singleton.mpr hp)

theorem pointForm_stringForm {p : Point} (hp : e.Conveys p) : PointForm p (stringForm e p) := by
  cases hhas : e.has p with
  | true =>
    rw [stringForm_of_has he hhas]
    exact pointForm_stringPoint false nofun
  | false =>
    obtain ⟨hlow, hhigh⟩ := hp.resolve_left (by rw [hhas]; exact Bool.false_ne_true)
    rw [stringForm_of_not_has he hhas, Point.escape, if_neg (by omega), if_pos hhigh]
    exact .code hhigh

theorem illForm_stringForm {p : Point} (hp : ¬ e.Conveys p) : IllForm (stringForm e p) := by
  obtain ⟨hhas, hrange⟩ := not_or.mp hp
  rw [stringForm_of_not_has he (Bool.eq_false_iff.mpr hhas), Point.escape]
  split_ifs with hlow hhigh
  · exact ⟨Point.ofChar 'x', _, rfl, by decide, by decide⟩
  · exact absurd ⟨not_lt.mp hlow, hhigh⟩ hrange
  · exact ⟨Point.ofChar 'U', _, rfl, by decide, by decide⟩

/-- The surrogates that the encoding does not have are written by their numbers. -/
theorem codes_stringForm : Codes (stringForm e) fun p => !e.has p := by
  intro p hp
  have hrange : 0xD800 ≤ p.val ∧ p.val < 0x10000 := by
    rw [Point.isHighSurrogate_iff, Point.isLowSurrogate_iff] at hp
    omega
  cases hhas : e.has p with
  | true =>
    obtain ⟨a, b, c, d, hescape, -⟩ := exists_codeEscape_eq hrange.2
    have hcoded : (!e.has p) ≠ true := by rw [hhas]; exact Bool.false_ne_true
    rw [stringForm_of_has he hhas, stringPoint_of_ge false (by omega), hescape]
    exact iff_of_false (fun h => nomatch h) hcoded
  | false =>
    rw [stringForm_of_not_has he hhas, Point.escape, if_neg (by omega), if_pos hrange.2]
    have hcoded : (!e.has p) = true := by rw [hhas]; rfl
    exact iff_of_true rfl hcoded

theorem escaped_string (s : Text) :
    e.escaped (string false s) = quoted (s.flatMap (stringForm e)) := by
  have hquote : e.escaped [Point.quotationMark] = [Point.quotationMark] :=
    Encoding.escaped_of_basic he (by decide)
  have hbody : e.escaped (s.flatMap (stringPoint false)) = s.flatMap (stringForm e) :=
    List.flatMap_assoc
  rw [string, Encoding.escaped_append, Encoding.escaped_append, hquote, hbody, quoted]

/-- **A string of points that come back is read as its text, rejoined.** -/
theorem spells_escaped {s : Text} (hs : ∀ p ∈ s, e.Conveys p) :
    Spells (s.flatMap (stringForm e)) (e.rejoined s) :=
  readString_points (codes_stringForm he) fun p hp => pointForm_stringForm he (hs p hp)

/-- **A string with another point is not read.** -/
theorem misspells_escaped {s : Text} (hs : ¬ ∀ p ∈ s, e.Conveys p) :
    Misspells (s.flatMap (stringForm e)) := by
  obtain ⟨p, hp, hill⟩ := not_forall₂.mp hs
  refine readString_ill (codes_stringForm he) (fun q _ => ?_) ⟨p, hp, illForm_stringForm he hill⟩
  exact (Classical.em (e.Conveys q)).imp (pointForm_stringForm he) (illForm_stringForm he)

omit he

/-! ## Values -/

/-- What comes back of a text on a stream: a value if `ok`, and nothing otherwise. The text stays on
one line. -/
structure Comes (e : Encoding) (height : Nat) (t : Text) (v : Value) (ok : Prop) : Prop where
  oneLine : Point.lineFeed ∉ t
  skip : ∀ s, skipSpaces (e.escaped t ++ s) = e.escaped t ++ s
  unmarked : (e.escaped t).head? ≠ some Point.byteOrderMark
  reads : ok → Reads height (e.escaped t) v
  refuses : ¬ ok → Refuses height (e.escaped t)

/-- A value has a line, of which `v'` comes back if `ok`. -/
def Tells (e : Encoding) (height : Nat) (v v' : Value) (ok : Prop) : Prop :=
  ∀ depth, ∃ t, write .line depth v = .ok t ∧ Comes e height t v' ok

namespace Comes

variable {height : Nat} {t : Text} {v : Value} {ok : Prop}

/-- **A whole text is read if it comes back**, and is refused otherwise. -/
theorem read_iff (h : Comes e height t v ok) (hheight : height ≤ deepest) :
    ((∃ v', Json.read (e.escaped t) = .ok v') ↔ ok) ∧ (ok → Json.read (e.escaped t) = .ok v) := by
  have hread : ok → Json.read (e.escaped t) = .ok v := fun hok =>
    (h.reads hok).read hheight h.unmarked
  refine ⟨⟨?_, fun hok => ⟨v, hread hok⟩⟩, hread⟩
  rintro ⟨v', hv'⟩
  by_contra hok
  have hskip := h.skip []
  rw [List.append_nil] at hskip
  obtain ⟨error, herror⟩ := (h.refuses hok).read hheight hskip
  cases hv'.symm.trans herror

end Comes

theorem Tells.mono {height height' : Nat} {v v' : Value} {ok : Prop} (h : Tells e height v v' ok)
    (hle : height ≤ height') : Tells e height' v v' ok := by
  intro depth
  obtain ⟨t, ht, hcomes⟩ := h depth
  exact ⟨t, ht, hcomes.oneLine, hcomes.skip, hcomes.unmarked,
    fun hok => (hcomes.reads hok).mono hle,
    fun hok depth fuel rest hdepth => hcomes.refuses hok depth fuel rest (by omega)⟩

theorem lineFeed_notMem_string (s : Text) : Point.lineFeed ∉ string false s := by
  have hpoint : ∀ p, Point.lineFeed ∉ stringPoint false p := by
    intro p
    by_cases hp : p.IsBasic
    · have hall : ∀ n < 0x80, Point.lineFeed ∉ stringPoint false (Point.ofNat n) := by
        decide +kernel
      exact Point.ofNat_val p ▸ hall p.val hp.1
    · rw [stringPoint_of_not_isBasic hp, List.mem_singleton]
      rintro rfl
      exact hp (by decide)
  have hquote : Point.lineFeed ∉ [Point.quotationMark] := by decide
  rw [string, List.mem_append, List.mem_append, List.mem_flatMap]
  rintro ((h | ⟨p, -, h⟩) | h)
  · exact hquote h
  · exact hpoint p h
  · exact hquote h

theorem tells_text (he : e.HasBasic) (s : Text) :
    Tells e 0 (.text s) (.text (e.rejoined s)) (∀ p ∈ s, e.Conveys p) := by
  intro depth
  refine ⟨string false s, by rw [Value.text, write, scalar]; rfl, lineFeed_notMem_string s,
    fun t => ?_, ?_, ?_, ?_⟩
  · rw [escaped_string he]
    exact skipSpaces_cons (by decide) _
  · rw [escaped_string he]
    exact fun h => absurd (Option.some.inj h) (by decide)
  · intro hs
    rw [escaped_string he]
    exact reads_quoted (spells_escaped he hs)
  · intro hs
    rw [escaped_string he]
    exact refuses_quoted (misspells_escaped he hs)

theorem tells_nat (he : e.HasBasic) {n : Nat} (hn : n < Numeral.limit) :
    Tells e 0 (.nat n) (.nat n) True := by
  have hreads : Reads 0 (Numeral.decimal n) (.nat n) := reads_ofInt (i := n) hn
  have hsame := Encoding.escaped_of_basic he (Numeral.isBasic_decimal n)
  intro depth
  refine ⟨Numeral.decimal n, write_nat hn .line depth, fun hmem => ?_, ?_, fun hhead => ?_, ?_, ?_⟩
  · exact absurd (Numeral.isDigit_of_mem_decimal hmem) (by decide)
  · rw [hsame]
    exact hreads.skipSpaces_append
  · rw [hsame] at hhead
    exact absurd (Numeral.isBasic_decimal n _ (List.mem_of_mem_head? hhead)) (by decide)
  · intro _
    rwa [hsame]
  · exact fun h => absurd trivial h

/-! ## Objects -/

/-- A field with what comes back of its value, if anything does. -/
structure Part (e : Encoding) (height : Nat) where
  name : Text
  value : Value
  told : Value
  ok : Prop
  tells : Tells e height value told ok

namespace Part

variable {height : Nat}

def field (p : Part e height) : Text × Value := (p.name, p.value)

/-- A field that is a text. -/
def text (he : e.HasBasic) (name s : Text) : Part e height :=
  ⟨name, .text s, .text (e.rejoined s), ∀ p ∈ s, e.Conveys p, (tells_text he s).mono height.zero_le⟩

/-- The field as it comes back. -/
def back (p : Part e height) : Text × Value := (e.rejoined p.name, p.told)

/-- Name and value come back. -/
def Comes (p : Part e height) : Prop := (∀ q ∈ p.name, e.Conveys q) ∧ p.ok

/-- A text of the field on a line. -/
structure Has (p : Part e height) (t : Text) : Prop where
  oneLine : Point.lineFeed ∉ t
  reads : p.Comes → ReadsField height (e.escaped t) p.back
  refuses : ¬ p.Comes → RefusesField height (e.escaped t)

theorem exists_has (he : e.HasBasic) (p : Part e height) (depth : Nat) :
    ∃ t, (do return (← key false (.text p.name)) ++ ": " ++ (← write .line depth p.value)) =
      Except.ok t ∧ p.Has t := by
  obtain ⟨w, hw, hcomes⟩ := p.tells depth
  have hcolon : e.escaped ": " = ": " := Encoding.escaped_of_basic he (by decide)
  have hescaped : e.escaped (string false p.name ++ ": " ++ w) =
      quoted (p.name.flatMap (stringForm e)) ++ ": " ++ e.escaped w := by
    rw [Encoding.escaped_append, Encoding.escaped_append, escaped_string he, hcolon]
  refine ⟨string false p.name ++ ": " ++ w, by rw [hw]; rfl, ?_, fun h => ?_, fun h => ?_⟩
  · have hcolon : Point.lineFeed ∉ Text.ofString ": " := by decide
    rw [List.mem_append, List.mem_append, not_or, not_or]
    exact ⟨⟨lineFeed_notMem_string p.name, hcolon⟩, hcomes.oneLine⟩
  · rw [hescaped]
    exact ⟨_, _, rfl, spells_escaped he h.1, hcomes.reads h.2⟩
  · rw [hescaped]
    by_cases hname : ∀ q ∈ p.name, e.Conveys q
    · exact .value (spells_escaped he hname) hcomes.skip (hcomes.refuses fun hok => h ⟨hname, hok⟩)
    · exact .name _ (misspells_escaped he hname)

theorem mapM_writeFields {depth : Nat} {f : Part e height → Text}
    (hf : ∀ p : Part e height, (do
      return (← key false (.text p.name)) ++ ": " ++ (← write .line depth p.value)) =
        Except.ok (f p)) (ps : List (Part e height)) :
    (writeFields .line depth ((ps.map field).map entry)).mapM (·.2) = .ok (ps.map f) := by
  induction ps with
  | nil =>
    rw [List.map_nil, List.map_nil, writeFields]
    rfl
  | cons p ps ih =>
    rw [List.map_cons, List.map_cons, writeFields, List.mapM_cons, ih]
    exact congrArg (· >>= fun t => Except.ok (t :: ps.map f)) (hf p)

end Part

theorem escaped_join (he : e.HasBasic) (depth : Nat) (ts : List Text) :
    e.escaped (Text.join (Layout.line.separator depth) ts) =
      Text.join (Layout.line.separator depth) (ts.map e.escaped) := by
  have hseparator : e.escaped (Layout.line.separator depth) = Layout.line.separator depth :=
    Encoding.escaped_of_basic he (show Text.IsBasic ", " by decide)
  induction ts with
  | nil => rfl
  | cons t ts ih =>
    cases ts with
    | nil => rfl
    | cons t' ts =>
      rw [Text.join_cons_cons, Encoding.escaped_append, Encoding.escaped_append, hseparator, ih]
      exact (Text.join_cons_cons _ _ _ _).symm

theorem escaped_enclose (he : e.HasBasic) (depth : Nat) {opening closing : Point}
    (hopening : opening.IsBasic) (hclosing : closing.IsBasic) (ts : List Text) :
    e.escaped (Layout.line.enclose depth opening closing ts) =
      Layout.line.enclose depth opening closing (ts.map e.escaped) := by
  have hpoint : ∀ {p : Point}, p.IsBasic → e.escaped [p] = [p] := fun hp =>
    Encoding.escaped_of_basic he (List.forall_mem_singleton.mpr hp)
  have hbreak : ∀ depth, e.escaped (Layout.line.breakAt depth) = Layout.line.breakAt depth :=
    fun _ => rfl
  rw [Layout.enclose, Layout.enclose, List.isEmpty_map]
  split_ifs
  · exact Encoding.escaped_of_basic he
      (List.forall_mem_cons.mpr ⟨hopening, List.forall_mem_singleton.mpr hclosing⟩)
  · simp only [Encoding.escaped_append, hpoint hopening, hpoint hclosing, hbreak,
      escaped_join he]

theorem lineFeed_notMem_enclose (depth : Nat) {opening closing : Point}
    (hopening : opening ≠ Point.lineFeed) (hclosing : closing ≠ Point.lineFeed) {ts : List Text}
    (hts : ∀ t ∈ ts, Point.lineFeed ∉ t) :
    Point.lineFeed ∉ Layout.line.enclose depth opening closing ts := by
  have hseparator : ∀ p ∈ Layout.line.separator (depth + 1), p ≠ Point.lineFeed := by
    have hcomma : Point.lineFeed ∉ Text.ofString ", " := by decide
    exact fun p hp => ne_of_mem_of_not_mem hp hcomma
  have hjoin := Text.forall_mem_join hseparator fun t ht p hp => ne_of_mem_of_not_mem hp (hts t ht)
  have hmem : Point.lineFeed ∉ Text.join (Layout.line.separator (depth + 1)) ts := fun h =>
    hjoin _ h rfl
  have hbreak : ∀ depth, Layout.line.breakAt depth = [] := fun _ => rfl
  rw [Layout.enclose]
  split_ifs
  · simp [hopening.symm, hclosing.symm]
  · simp [hopening.symm, hclosing.symm, hbreak, hmem]

/-- **An object comes back as what its fields come to**, if all of them come back. -/
theorem tells_object (he : e.HasBasic) {height : Nat} (ps : List (Part e height)) :
    Tells e (height + 1) (.object (ps.map Part.field)) (.map (collect (ps.map Part.back)))
      (∀ p ∈ ps, p.Comes) := by
  intro depth
  choose f hf hhas using fun p : Part e height => p.exists_has he (depth + 1)
  have hescaped :
      e.escaped (Layout.line.enclose depth Point.openBrace Point.closeBrace (ps.map f)) =
        Layout.line.enclose depth Point.openBrace Point.closeBrace
          (ps.map fun p => e.escaped (f p)) := by
    rw [escaped_enclose he depth (by decide) (by decide), List.map_map]
    rfl
  obtain ⟨more, hmore⟩ := enclose_ne_nil .line depth Point.openBrace Point.closeBrace
    (ps.map fun p => e.escaped (f p))
  refine ⟨Layout.line.enclose depth Point.openBrace Point.closeBrace (ps.map f), ?_, ?_,
    fun s => ?_, ?_, ?_, ?_⟩
  · have horder : ∀ fs : List (Scalar × Except Failure Text), order .line fs = .ok fs :=
      fun _ => rfl
    rw [Value.object, write, horder]
    exact congrArg (· >>= fun ts => Except.ok
      (Layout.line.enclose depth Point.openBrace Point.closeBrace ts)) (Part.mapM_writeFields hf ps)
  · exact lineFeed_notMem_enclose depth (by decide) (by decide)
      (List.forall_mem_map.mpr fun p _ => (hhas p).oneLine)
  · rw [hescaped, hmore]
    exact skipSpaces_cons (by decide) _
  · rw [hescaped, hmore]
    exact fun h => absurd (Option.some.inj h) (by decide)
  · intro hcomes
    rw [hescaped]
    refine reads_object .line ?_ depth
    rw [List.forall₂_map_left_iff, List.forall₂_map_right_iff, List.forall₂_same]
    exact fun p hp => (hhas p).reads (hcomes p hp)
  · intro hcomes
    rw [hescaped]
    obtain ⟨p, hp, hill⟩ := not_forall₂.mp hcomes
    refine refuses_object .line (List.forall_mem_map.mpr fun q _ => ?_)
      ⟨_, List.mem_map_of_mem hp, (hhas p).refuses hill⟩ depth
    exact (Classical.em q.Comes).imp (fun h => ⟨_, (hhas q).reads h⟩) (hhas q).refuses

end Json

end HiveScript
