import HiveScript.Program.Checks
import HiveScript.Proofs.Batch.Overwriting

/-!
# Header comments

The header of a script is one comment, as long as what was given for it says something. Blanks pass
the check of headers whatever they are, since they count as no header there, and become a header all
the same.

* `Text.LacksLineEnds`: a text without line ends.
* `answers_checkHeader`: what the check of headers lets pass.
* **`header_comment`**: the header of checked settings, and when it is on one line.
-/

namespace HiveScript

/-- The text has no line ends. -/
def Text.LacksLineEnds (s : Text) : Prop := Point.lineFeed ∉ s ∧ Point.carriageReturn ∉ s

namespace Script

theorem head?_comment (header : Text) : (comment header).head? = some (Point.ofChar '#') := by
  rw [comment]
  split_ifs with h
  · exact h
  · rfl

/-- To make a comment adds no line ends. -/
theorem lacksLineEnds_comment_iff (header : Text) :
    (comment header).LacksLineEnds ↔ header.LacksLineEnds := by
  have hmark : ∀ p, p ∉ Text.ofString "# " → (p ∉ Text.ofString "# " ++ header ↔ p ∉ header) :=
    fun p hp => by rw [List.mem_append, or_iff_right hp]
  rw [comment]
  split_ifs
  · rfl
  · exact and_congr (hmark _ (by decide)) (hmark _ (by decide))

theorem layout_header {header : Text} (h : header ≠ []) (body : Text) :
    layout (some header) [Point.lineFeed] body = comment header ++ "\n\n" ++ body := by
  rw [layout, withNewline, if_pos rfl]
  cases header with
  | nil => exact absurd rfl h
  | cons p s => rfl

end Script

namespace Run

/-! ## What is accepted -/

theorem answers_display (v : Value) : Answers (display v) fun text => v.display? = some text := by
  rw [display]
  cases v.display? with
  | none => exact Answers.throw
  | some text => exact Answers.pure rfl

/-- What passes is on one line, unless there is nothing but blanks in it. -/
theorem answers_checkHeader (s : Settings) : Answers (checkHeader s) fun _ =>
    ∀ t, s.get "header" = .text t → t.isBlank = false → t.LacksLineEnds := by
  rw [checkHeader]
  split_ifs with hpresent
  · refine (answers_display _).bind fun text htext => ?_
    split_ifs with hbreaks
    · exact Answers.throw
    · refine Answers.pure fun t ht _ => ?_
      rw [ht] at htext
      obtain rfl : t = text := Option.some.inj htext
      simpa [Text.LacksLineEnds, not_or] using hbreaks
  · refine Answers.pure fun t ht hblank => absurd ?_ hpresent
    rw [ht, Value.isPresent, hblank]
    rfl

theorem answers_checkSettings_header (s : Settings) : Answers (checkSettings s) fun checked =>
    (∃ inputs, checked = s.put "inputs" inputs) ∧
      ∀ t, s.get "header" = .text t → t.isBlank = false → t.LacksLineEnds := by
  rw [checkSettings]
  refine (Answers.any _).bind fun inputs _ => (Answers.any _).bind fun _ _ =>
    (Answers.any _).bind fun _ _ => (answers_checkHeader s).bind fun _ hheader => ?_
  exact Answers.pure ⟨⟨_, rfl⟩, hheader⟩

end Run

/-! ## What becomes of it -/

/-- The header that settings give as a text, or the common one where they give none. -/
def Settings.givenHeader (s : Settings) : Text :=
  match s.get "header" with
  | .text (p :: t) => p :: t
  | _ => Script.defaultHeader

namespace Settings

variable {s : Settings}

theorem headerText_eq (hshown : s.has "no_header" = false)
    (htext : s.get "header" = .null ∨ ∃ t, s.get "header" = .text t) :
    s.headerText = .ok (some s.givenHeader) ∧ s.givenHeader ≠ [] := by
  rw [headerText, header, if_neg (by rw [hshown]; exact nofun), givenHeader, has]
  rcases htext with hnull | ⟨t, ht⟩
  · rw [hnull]
    exact ⟨rfl, by decide⟩
  · rw [ht]
    cases t with
    | nil => exact ⟨rfl, by decide⟩
    | cons p t => exact ⟨rfl, List.cons_ne_nil p t⟩

/-- The common header is on one line, and so is one that is given unless it has line ends. -/
theorem lacksLineEnds_givenHeader_iff :
    s.givenHeader.LacksLineEnds ↔ ∀ t, s.get "header" = .text t → t.LacksLineEnds := by
  have hcommon : Script.defaultHeader.LacksLineEnds := by
    constructor <;> decide
  rw [givenHeader]
  split
  · next p t ht =>
    rw [ht]
    exact ⟨fun h u hu => by cases hu; exact h, fun h => h _ rfl⟩
  · next hne =>
    refine ⟨fun _ t ht => ?_, fun _ => hcommon⟩
    cases t with
    | nil => exact ⟨List.not_mem_nil, List.not_mem_nil⟩
    | cons p t => exact absurd ht (hne p t)

end Settings

/-- **The header of settings that are accepted is one comment before the commands.** It is on one
line unless it was given as blanks with a line end among them. -/
theorem Run.header_comment {s checked : Settings} {w v : World}
    (haccepted : (checkSettings s).after w = (.ok checked, v))
    (hshown : s.has "no_header" = false)
    (htext : s.get "header" = .null ∨ ∃ t, s.get "header" = .text t) :
    ∃ header h : Text, checked.headerText = .ok (some header) ∧
      (∀ body, Script.layout (some header) [Point.lineFeed] body = h ++ "\n\n" ++ body) ∧
      h.head? = some (Point.ofChar '#') ∧
      (h.LacksLineEnds ↔ ∀ t, s.get "header" = .text t → t.isBlank = true → t.LacksLineEnds) := by
  obtain ⟨⟨inputs, rfl⟩, hpassed⟩ := (answers_checkSettings_header s).of_after haccepted
  have hsame : (s.put "inputs" inputs).headerText = s.headerText := by
    rw [Settings.headerText, Settings.header, Settings.has, Settings.has,
      Settings.get_put_of_ne s (by decide), Settings.get_put_of_ne s (by decide)]
    rfl
  obtain ⟨hheader, hne⟩ := Settings.headerText_eq hshown htext
  refine ⟨s.givenHeader, Script.comment s.givenHeader, hsame.trans hheader,
    Script.layout_header hne, Script.head?_comment _, ?_⟩
  rw [Script.lacksLineEnds_comment_iff, Settings.lacksLineEnds_givenHeader_iff]
  refine forall₂_congr fun t ht => ⟨fun h _ => h, fun h => ?_⟩
  -- What is no blank has passed the check.
  cases hblank : t.isBlank with
  | true => exact h hblank
  | false => exact hpassed t ht hblank

namespace Run

/-- The settings of one input with a header. -/
def headed (header : Text) : Settings :=
  [("inputs", .texts ["a.reg"]), ("header", .text header)]

theorem header_comment_given : ∃ checked,
    (checkSettings (headed "mine")).after tray = (.ok checked, tray) ∧
    (headed "mine").has "no_header" = false ∧
    ∃ header h : Text, checked.headerText = .ok (some header) ∧
      (∀ body, Script.layout (some header) [Point.lineFeed] body = h ++ "\n\n" ++ body) ∧
      h.head? = some (Point.ofChar '#') ∧ h.LacksLineEnds := by
  have haccepted : (checkSettings (headed "mine")).after tray = (.ok (headed "mine"), tray) := rfl
  have hheader : (headed "mine").get "header" = .text "mine" := rfl
  obtain ⟨header, h, htext, hlayout, hhead, hiff⟩ :=
    header_comment haccepted (by decide) (.inr ⟨"mine", hheader⟩)
  refine ⟨headed "mine", haccepted, by decide, header, h, htext, hlayout, hhead, hiff.mpr ?_⟩
  rw [hheader]
  rintro t ⟨⟩ hblank
  exact absurd hblank (by decide)

/-- A line feed passes the check and becomes a header of two lines. -/
theorem header_not_comment :
    (checkSettings (headed "\n")).after tray = (.ok (headed "\n"), tray) ∧
    (headed "\n").has "no_header" = false ∧
    (headed "\n").headerText = .ok (some (Text.ofString "\n")) ∧
    Script.layout (some (Text.ofString "\n")) [Point.lineFeed] [] = "# \n\n\n" ∧
    ¬ ∃ h : Text, h.LacksLineEnds ∧
      Script.layout (some (Text.ofString "\n")) [Point.lineFeed] [] = h ++ "\n\n" := by
  refine ⟨rfl, by decide, rfl, by decide, ?_⟩
  rintro ⟨h, hone, heq⟩
  have hh : h = Text.ofString "# \n" := (List.append_cancel_right heq).symm
  rw [hh] at hone
  exact hone.1 (by decide)

end Run

end HiveScript
