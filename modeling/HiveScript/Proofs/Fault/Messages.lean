import HiveScript.Fault.Basic
import HiveScript.Fault.Foreign
import HiveScript.Proofs.Results
import HiveScript.Proofs.Text.OneLine

/-!
# Messages of faults

* `Text.IsShown`, `Text.IsMessage`: what a line can show, and what the message of a fault is.
* `isMessage_messageOf`: each fault has such a message.
* `Fault.addTexts`, `Fault.addAllTexts`: texts are added to the context, call after call;
  `extends_addAllTexts`: what that leaves alone.
* `Fault.isShown_of_userMessage?_eq`, `Foreign.isShown_of_line?_eq`: what is shown of an error.
* **`messages_on_one_line`**: all messages are one bounded line.
-/

namespace HiveScript

namespace Text

/-- There is something to show, and nothing of it breaks the line. -/
structure IsShown (s : Text) : Prop where
  ne_nil : s ≠ []
  unbroken : ∀ p ∈ s, p.isBreak = false

/-- What the message of a fault is: words with single spaces between them, and not too many. -/
structure IsMessage (s : Text) : Prop where
  ne_nil : s ≠ []
  oneLine : s.IsOneLine
  length_le : s.length ≤ 600

variable {s t : Text}

theorem IsOneLine.isShown (h : s.IsOneLine) (hs : s ≠ []) : s.IsShown :=
  ⟨hs, fun _ => h.isBreak_eq_false⟩

theorem IsMessage.isShown (h : s.IsMessage) : s.IsShown := h.oneLine.isShown h.ne_nil

theorem unbroken_of_all (h : (s.all fun p => !p.isBreak) = true) : ∀ p ∈ s, p.isBreak = false :=
  fun p hp => by simpa using List.all_eq_true.mp h p hp

/-- What is shown stays so with more that breaks no line behind it. -/
theorem IsShown.append (h : s.IsShown) (ht : ∀ p ∈ t, p.isBreak = false) :
    IsShown (s ++ t) where
  ne_nil := List.append_ne_nil_of_left_ne_nil h.ne_nil t
  unbroken := List.forall_mem_append.mpr ⟨h.unbroken, ht⟩

theorem isOneLine_oneLine (s : Text) : s.oneLine.IsOneLine :=
  isOneLine_oneLineWithin (by decide) s

theorem length_oneLine_le (s : Text) : s.oneLine.length ≤ 600 :=
  Int.ofNat_le.mp (length_oneLineWithin_le (by decide) s)

/-- One short word is a message. -/
theorem isMessage_of_word
    (h : (!s.isEmpty && s.all (fun p => !p.isBlank) && decide (s.length ≤ 600)) = true) :
    s.IsMessage := by
  simp only [Bool.and_eq_true, decide_eq_true_eq, List.all_eq_true, Bool.not_eq_true'] at h
  obtain ⟨⟨hne, hblank⟩, hlength⟩ := h
  refine ⟨?_, isOneLine_of_forall hblank, hlength⟩
  rintro rfl
  cases hne

end Text

/-! ## Faults -/

namespace Fault

/-- The name of a class is one short word. -/
theorem Kind.isMessage_className (kind : Kind) : kind.className.IsMessage := by
  apply Text.isMessage_of_word
  match kind with
  | .general | .fatal => decide
  | .conversion reason _ =>
    rw [className]
    cases reason <;> decide

/-- What has no words becomes the name of the class. -/
theorem isMessage_oneLine_or (kind : Kind) (s : Text) :
    Text.IsMessage (if s.oneLine.isEmpty then kind.className else s.oneLine) := by
  split_ifs with h
  · exact kind.isMessage_className
  · exact ⟨fun hnil => h (List.isEmpty_iff.mpr hnil), Text.isOneLine_oneLine s,
      Text.length_oneLine_le s⟩

theorem isMessage_messageOf (kind : Kind) (message : Text) : (messageOf kind message).IsMessage :=
  isMessage_oneLine_or kind _

theorem isMessage_of_make {kind : Kind} {code : Option Value} {message : Option Text}
    {context : List (Text × Value)} {f : Fault} (h : make kind code message context = .ok f) :
    f.message.IsMessage ∧ f.context = context := by
  rw [make] at h
  split_ifs at h
  obtain ⟨n, -, hn⟩ := exists_of_bind_eq_ok h
  obtain rfl := Except.ok.inj hn
  exact ⟨isMessage_messageOf kind _, rfl⟩

/-! ## Additions to the context -/

/-- Adds texts to the context. A call that is refused leaves the fault as it is. -/
def addTexts (new : List (Text × Text)) (f : Fault) : Fault :=
  match f.addContext (new.map fun e => (e.1, .text e.2)) with
  | .ok g => g
  | .error _ => f

/-- Adds texts to the context call after call. -/
def addAllTexts (calls : List (List (Text × Text))) (f : Fault) : Fault :=
  calls.foldl (fun f new => f.addTexts new) f

/-- `g` is `f` but for texts in the context. -/
structure Extends (f g : Fault) : Prop where
  kind : g.kind = f.kind
  code : g.code = f.code
  message : g.message = f.message
  context : ∀ e ∈ g.context, e ∈ f.context ∨ ∃ s : Text, e.2 = .text s

variable {f g h : Fault}

theorem Extends.refl (f : Fault) : f.Extends f := ⟨rfl, rfl, rfl, fun _ => .inl⟩

theorem Extends.trans (hg : f.Extends g) (hh : g.Extends h) : f.Extends h where
  kind := hh.kind.trans hg.kind
  code := hh.code.trans hg.code
  message := hh.message.trans hg.message
  context e he := (hh.context e he).elim (hg.context e) .inr

end Fault

theorem mem_putNamed {k : Text} {v : α} {e : Text × α} {es : List (Text × α)}
    (h : e ∈ putNamed k v es) : e = (k, v) ∨ e ∈ es := by
  induction es with
  | nil => exact .inl (List.mem_singleton.mp h)
  | cons a es ih =>
    rw [putNamed] at h
    split_ifs at h
    · exact (List.mem_cons.mp h).imp_right (List.mem_cons_of_mem a)
    · rcases List.mem_cons.mp h with rfl | h
      · exact .inr List.mem_cons_self
      · exact (ih h).imp_right (List.mem_cons_of_mem a)

theorem mem_putAllNamed {e : Text × α} {new old : List (Text × α)} (h : e ∈ putAllNamed new old) :
    e ∈ new ∨ e ∈ old := by
  induction new generalizing old with
  | nil => exact .inr h
  | cons a new ih =>
    rcases ih h with h | h
    · exact .inl (List.mem_cons_of_mem a h)
    · refine (mem_putNamed h).imp_left ?_
      rintro rfl
      exact List.mem_cons_self

namespace Fault

variable {f : Fault}

theorem extends_addTexts (new : List (Text × Text)) (f : Fault) : f.Extends (f.addTexts new) := by
  rw [addTexts, addContext]
  split_ifs
  · exact .refl f
  · refine ⟨rfl, rfl, rfl, fun e he => ?_⟩
    rcases mem_putAllNamed he with he | he
    · obtain ⟨a, -, rfl⟩ := List.mem_map.mp he
      exact .inr ⟨a.2, rfl⟩
    · exact .inl he

theorem extends_addAllTexts (calls : List (List (Text × Text))) (f : Fault) :
    f.Extends (f.addAllTexts calls) := by
  induction calls generalizing f with
  | nil => exact .refl f
  | cons new calls ih => exact (extends_addTexts new f).trans (ih (f.addTexts new))

/-! ## What is shown of a fault -/

theorem isOneLine_of_contextText?_eq {context : List (Text × Value)} {t : Text}
    (h : contextText? context = some t) : t.IsOneLine := by
  obtain ⟨parts, -, hparts⟩ := Option.bind_eq_some_iff.mp h
  obtain rfl := Option.some.inj hparts
  exact Text.isOneLine_oneLine _

theorem isShown_of_userMessage?_eq {line : Text} (hf : f.message.IsMessage)
    (h : f.userMessage? = some line) : line.IsShown := by
  rw [userMessage?] at h
  split_ifs at h
  · obtain rfl := Option.some.inj h
    exact hf.isShown
  · obtain ⟨t, ht, hline⟩ := Option.bind_eq_some_iff.mp h
    obtain rfl := Option.some.inj hline
    have hopen := hf.isShown.append (Text.unbroken_of_all (s := Text.ofString " [") (by decide))
    have hcontext := hopen.append fun p hp => (isOneLine_of_contextText?_eq ht).isBreak_eq_false hp
    exact hcontext.append (Text.unbroken_of_all (by decide))

theorem isShown_of_line?_eq {verbosity : Int} {line : Text} (hf : f.message.IsMessage)
    (h : f.line? verbosity = some line) : line.IsShown := by
  rw [line?] at h
  split_ifs at h
  · exact isShown_of_userMessage?_eq hf h
  · obtain rfl := Option.some.inj h
    exact hf.isShown

/-- Texts can be shown, and so can a context that consists of what can be shown. -/
theorem exists_contextText?_eq {context : List (Text × Value)}
    (h : ∀ e ∈ context, ∃ t, e.2.inspect? = some t) : ∃ t, contextText? context = some t := by
  have hpart : ∀ e ∈ sortNamed context,
      ∃ part, (do return e.1 ++ "=" ++ (← e.2.inspect?) : Option Text) = some part := by
    intro e he
    obtain ⟨t, ht⟩ := h e (List.mem_mergeSort.mp he)
    exact ⟨e.1 ++ "=" ++ t, by rw [ht]; rfl⟩
  obtain ⟨parts, hparts⟩ := exists_mapM_eq_some hpart
  exact ⟨_, congrArg (· >>= fun parts => some (Text.join ", " parts).oneLine) hparts⟩

theorem exists_userMessage?_eq (h : ∀ e ∈ f.context, ∃ t, e.2.inspect? = some t) :
    ∃ line, f.userMessage? = some line := by
  rw [userMessage?]
  split_ifs
  · exact ⟨_, rfl⟩
  · obtain ⟨t, ht⟩ := exists_contextText?_eq h
    exact ⟨f.message ++ " [" ++ t ++ "]", by rw [ht]; rfl⟩

theorem exists_line?_eq (h : ∀ e ∈ f.context, ∃ t, e.2.inspect? = some t) (verbosity : Int) :
    ∃ line, f.line? verbosity = some line := by
  rw [line?]
  split_ifs
  · exact exists_userMessage?_eq h
  · exact ⟨f.message, rfl⟩

end Fault

/-! ## What is shown of foreign errors -/

namespace Foreign

theorem isMessage_systemClass (number : Int) : (systemClass number).IsMessage := by
  have hclasses : ∀ c ∈ systemClasses, (!(Text.ofString c.2).isEmpty &&
      (Text.ofString c.2).all (fun p => !p.isBlank) &&
      decide ((Text.ofString c.2).length ≤ 600)) = true := by decide
  rw [systemClass]
  split
  · next c hc => exact Text.isMessage_of_word (hclasses c (List.mem_of_find?_eq_some hc))
  · exact Text.isMessage_of_word (by decide)

theorem isMessage_name (kind : ForeignClass) : kind.name.IsMessage :=
  Text.isMessage_of_word (by cases kind <;> decide)

theorem isMessage_className (e : Foreign) : e.className.IsMessage := by
  rw [className]
  split
  · split_ifs
    · exact isMessage_name _
    · next number _ _ _ _ _ =>
      cases number.int? with
      | none => exact isMessage_name _
      | some i => exact isMessage_systemClass i
  · exact isMessage_name _

/-- Whatever an error says, its line can be shown if the name of its class can. -/
theorem isShown_lineOf {name : Text} (hname : name.IsShown) (verbosity : Int) (s : Text) :
    (lineOf verbosity name s).IsShown := by
  have hs : ∀ p ∈ s.oneLine, p.isBreak = false :=
    fun p hp => (Text.isOneLine_oneLine s).isBreak_eq_false hp
  rw [lineOf]
  split_ifs with _ hempty
  · exact (hname.append (Text.unbroken_of_all (by decide))).append hs
  · exact hname
  · exact ⟨fun hnil => hempty (List.isEmpty_iff.mpr hnil), hs⟩

theorem isShown_of_line?_eq {e : Foreign} {verbosity : Int} {line : Text}
    (h : e.line? verbosity = some line) : line.IsShown := by
  obtain ⟨s, -, rfl⟩ := Option.map_eq_some_iff.mp h
  exact isShown_lineOf e.isMessage_className.isShown verbosity s

/-- An error with the texts `ss` as its arguments. -/
def ofTexts (kind : ForeignClass) (ss : List Text) : Foreign := ⟨kind, ss.map .text⟩

theorem progress?_ofTexts (kind : ForeignClass) (ss : List Text) :
    (ofTexts kind ss).progress? = none := by
  match ss with
  | [] | [_] | [_, _] => rfl
  | a :: b :: c :: ss => exact if_neg fun h => nomatch h.2

theorem make_texts (kind : ForeignClass) (ss : List Text) :
    make kind (ss.map .text) = .ok (ofTexts kind ss) := by
  have hprogress := progress?_ofTexts kind ss
  rw [ofTexts] at hprogress
  rw [make, hprogress]
  rfl

theorem exists_tuple?_eq (ss : List Text) : ∃ t, tuple? (ss.map .text) = some t := by
  obtain ⟨ts, hts⟩ : ∃ ts, (ss.map Value.text).mapM Value.inspect? = some ts := by
    refine exists_mapM_eq_some fun v hv => ?_
    obtain ⟨s, -, rfl⟩ := List.mem_map.mp hv
    exact ⟨s.quoted, rfl⟩
  exact ⟨"(" ++ Text.join ", " ts ++ ")", by rw [tuple?, hts]; rfl⟩

theorem path?_text (s : Option Text) : path? (s.map .text) = s.map .text := by
  cases s <;> rfl

theorem paths_ofTexts (kind : ForeignClass) (ss : List Text) :
    (ofTexts kind ss).paths = (ss[2]?.map .text, ss[4]?.map .text) := by
  rw [paths, progress?_ofTexts]
  simp only [ofTexts, List.getElem?_map, path?_text]
  rfl

/-- Texts can be told. -/
theorem exists_text?_ofTexts (kind : ForeignClass) (ss : List Text) :
    ∃ t, (ofTexts kind ss).text? = some t := by
  match ss with
  | [] => exact ⟨[], by rfl⟩
  | [s] => cases kind <;> exact ⟨_, rfl⟩
  | number :: message :: rest =>
    have htuple := exists_tuple?_eq (number :: message :: rest)
    match kind with
    | .value | .key | .runtime | .type => exact htuple
    | .system =>
      change ∃ t, ite (3 < (rest.map Value.text).length) _ _ = some t
      split_ifs
      · exact htuple
      · rw [paths_ofTexts .system (number :: message :: rest)]
        cases (number :: message :: rest)[2]? <;> cases (number :: message :: rest)[4]? <;>
          exact ⟨_, rfl⟩

end Foreign

/-- **All messages are one bounded line.** The message of a fault stays what it is whatever is
added to the context, and a line that shows the fault or a foreign error is not broken. A context
that was given with the fault needs to have a written form. -/
theorem messages_on_one_line {kind : Fault.Kind} {code : Option Value} {message : Option Text}
    {context : List (Text × Value)} {f : Fault}
    (h : Fault.make kind code message context = .ok f) (calls : List (List (Text × Text))) :
    (f.addAllTexts calls).message.IsMessage ∧
    (f.addAllTexts calls).code = f.code ∧
    (f.addAllTexts calls).message = f.message ∧
    (f.addAllTexts calls).line = f.line ∧
    (∀ t, (f.addAllTexts calls).userMessage? = some t → t.IsShown) ∧
    (∀ verbosity t, (f.addAllTexts calls).line? verbosity = some t → t.IsShown) ∧
    ((∀ e ∈ context, ∃ t, e.2.inspect? = some t) →
      (∃ t, (f.addAllTexts calls).userMessage? = some t) ∧
      ∀ verbosity, ∃ t, (f.addAllTexts calls).line? verbosity = some t) ∧
    (∀ foreign (ss : List Text) verbosity, ∃ e t, Foreign.make foreign (ss.map .text) = .ok e ∧
      e.line? verbosity = some t ∧ t.IsShown) ∧
    ∀ limit s, 3 ≤ limit → ((Text.oneLineWithin limit s).length : Int) ≤ limit ∧
      Text.oneLineWithin limit (Text.oneLineWithin limit s) = Text.oneLineWithin limit s := by
  obtain ⟨hmessage, hcontext⟩ := Fault.isMessage_of_make h
  have hextends := Fault.extends_addAllTexts calls f
  have hmessage' : (f.addAllTexts calls).message.IsMessage := hextends.message ▸ hmessage
  have hline : (f.addAllTexts calls).line = f.line := by
    rw [Fault.line, Fault.line, hextends.kind]
  refine ⟨hmessage', hextends.code, hextends.message, hline,
    fun t => Fault.isShown_of_userMessage?_eq hmessage',
    fun verbosity t => Fault.isShown_of_line?_eq hmessage', fun htold => ?_,
    fun foreign ss verbosity => ?_, fun limit s hlimit => ⟨Text.length_oneLineWithin_le hlimit s,
      Text.oneLineWithin_oneLineWithin hlimit s⟩⟩
  · have htold' : ∀ e ∈ (f.addAllTexts calls).context, ∃ t, e.2.inspect? = some t := by
      intro e he
      rcases hextends.context e he with he | ⟨s, hs⟩
      · exact htold e (hcontext ▸ he)
      · exact ⟨s.quoted, by rw [hs]; rfl⟩
    exact ⟨Fault.exists_userMessage?_eq htold', Fault.exists_line?_eq htold'⟩
  · obtain ⟨s, hs⟩ := Foreign.exists_text?_ofTexts foreign ss
    have ht : (Foreign.ofTexts foreign ss).line? verbosity =
        some (Foreign.lineOf verbosity (Foreign.ofTexts foreign ss).className s) := by
      rw [Foreign.line?, hs]
      rfl
    exact ⟨_, _, Foreign.make_texts foreign ss, ht, Foreign.isShown_of_line?_eq ht⟩

/-- A message and contexts that would break their line, and a name that is refused. -/
theorem messages_on_one_line_broken : ∃ f,
    Fault.make .general none (some "a\r\n\tb") [("k", .text "p\nq")] = .ok f ∧
    (f.addAllTexts [[("self", "s")], [("file", "c\nd")]]).message = "a b" ∧
    (f.addAllTexts [[("self", "s")], [("file", "c\nd")]]).message.IsMessage ∧
    ∃ t, (f.addAllTexts [[("self", "s")], [("file", "c\nd")]]).userMessage? = some t ∧
      t.IsShown := by
  have hmake : Fault.make .general none (some "a\r\n\tb") [("k", .text "p\nq")] = .ok _ := rfl
  obtain ⟨hmessage, -, -, -, hshown, -, htold, -⟩ :=
    messages_on_one_line hmake [[("self", "s")], [("file", "c\nd")]]
  obtain ⟨⟨t, ht⟩, -⟩ := htold (by
    intro e he
    obtain rfl := List.mem_singleton.mp he
    exact ⟨_, rfl⟩)
  exact ⟨_, hmake, by decide, hmessage, t, ht, hshown t ht⟩

end HiveScript
