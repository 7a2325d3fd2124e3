import HiveScript.Proofs.Encoding.Exports
import HiveScript.Script.Layout

/-!
# What a script file says

The line ends of a script can be told from what they were before, and its octets from no other
text.

* `Text.pairLineFeeds`: a carriage return before each line feed;
  **`dropPairedReturns_pairLineFeeds`**.
* **`Script.layout_paired`**: a script with paired line ends differs from the one without in nothing
  but these, and laying it out once more changes nothing.
* **`Script.encode_lossless`**: the octets of a script hold all of its text.
-/

namespace HiveScript

/-! ## Line ends -/

namespace Text

/-- Writes a carriage return before each line feed, whatever stands there. -/
def pairLineFeeds (s : Text) : Text := s.replacePoint Point.lineFeed "\r\n"

theorem pairLineFeeds_lineFeed (s : Text) : pairLineFeeds (Point.lineFeed :: s) =
    Point.carriageReturn :: Point.lineFeed :: pairLineFeeds s := rfl

theorem pairLineFeeds_cons {p : Point} (hp : p ≠ Point.lineFeed) (s : Text) :
    pairLineFeeds (p :: s) = p :: pairLineFeeds s := by
  rw [pairLineFeeds, replacePoint, List.flatMap_cons, if_neg hp]
  rfl

/-- What is written begins with no line feed. -/
theorem head?_pairLineFeeds (s : Text) : (pairLineFeeds s).head? ≠ some Point.lineFeed := by
  cases s with
  | nil => exact nofun
  | cons p s =>
    by_cases hp : p = Point.lineFeed
    · rw [hp, pairLineFeeds_lineFeed]
      exact fun h => absurd (Option.some.inj h) (by decide)
    · rw [pairLineFeeds_cons hp]
      exact fun h => hp (Option.some.inj h)

/-- **The carriage returns that were written are those that are dropped again.** The ones that stood
before a line feed already have a carriage return between them and it. -/
theorem dropPairedReturns_pairLineFeeds (s : Text) : (pairLineFeeds s).dropPairedReturns = s := by
  induction s with
  | nil => rfl
  | cons p s ih =>
    by_cases hp : p = Point.lineFeed
    · have hkept : ¬ (Point.lineFeed = Point.carriageReturn ∧
          (pairLineFeeds s).head? = some Point.lineFeed) := fun h => absurd h.1 (by decide)
      rw [hp, pairLineFeeds_lineFeed, dropPairedReturns, if_pos ⟨rfl, rfl⟩, dropPairedReturns,
        if_neg hkept, ih]
    · rw [pairLineFeeds_cons hp, dropPairedReturns,
        if_neg fun h => head?_pairLineFeeds s h.2, ih]

theorem count_lineFeed_pairLineFeeds (s : Text) :
    (pairLineFeeds s).count Point.lineFeed = s.count Point.lineFeed := by
  have hreturn : Point.carriageReturn ≠ Point.lineFeed := by decide
  induction s with
  | nil => rfl
  | cons p s ih =>
    by_cases hp : p = Point.lineFeed
    · rw [hp, pairLineFeeds_lineFeed, List.count_cons_of_ne hreturn, List.count_cons_self,
        List.count_cons_self, ih]
    · rw [pairLineFeeds_cons hp, List.count_cons_of_ne hp, List.count_cons_of_ne hp, ih]

theorem count_lineFeed_dropPairedReturns (s : Text) :
    s.dropPairedReturns.count Point.lineFeed = s.count Point.lineFeed := by
  induction s with
  | nil => rfl
  | cons p s ih =>
    rw [dropPairedReturns]
    split_ifs with hp
    · rw [ih, hp.1, List.count_cons_of_ne (by decide)]
    · rw [List.count_cons, List.count_cons, ih]

/-- Each line feed has the carriage return that was written before it. -/
theorem getLast?_of_pairLineFeeds_eq {s a b : Text}
    (h : pairLineFeeds s = a ++ Point.lineFeed :: b) :
    a.getLast? = some Point.carriageReturn := by
  induction s generalizing a with
  | nil => exact absurd h.symm (List.append_ne_nil_of_right_ne_nil _ (List.cons_ne_nil _ _))
  | cons p s ih =>
    -- The line feed in question stands further on, behind the points that `p` gives.
    have hlater : ∀ {a' : Text}, a' ++ Point.lineFeed :: b = pairLineFeeds s → ∀ q,
        (q :: a').getLast? = some Point.carriageReturn := fun h' q => by
      rw [List.getLast?_cons, ih h'.symm]
      rfl
    by_cases hp : p = Point.lineFeed
    · rw [hp, pairLineFeeds_lineFeed] at h
      match a, h with
      | [], h => exact absurd (List.cons.inj h).1 (by decide)
      | [q], h => rw [← (List.cons.inj h).1]; rfl
      | q :: r :: a, h =>
        rw [List.getLast?_cons_cons]
        exact hlater (List.cons.inj (List.cons.inj h).2).2.symm r
    · rw [pairLineFeeds_cons hp] at h
      cases a with
      | nil => exact absurd (List.cons.inj h).1 hp
      | cons q a => exact hlater (List.cons.inj h).2.symm q

end Text

namespace Script

open Text

theorem layout_lineFeed (header : Option Text) (body : Text) :
    layout header "\n" body = withHeader header body := by
  rw [layout, withNewline, if_pos (by decide)]

theorem layout_paired_eq (header : Option Text) (body : Text) :
    layout header "\r\n" body = pairLineFeeds (withHeader header body).dropPairedReturns := by
  rw [layout, withNewline, if_neg (by decide)]
  rfl

/-- **Paired line ends change nothing else.** Every line feed of a script with them stands behind a
carriage return, there are as many as in the script without them, both are the same text without
the carriage returns of line ends, and the script is stable. -/
theorem layout_paired (header : Option Text) (body : Text) :
    (∀ a b, layout header "\r\n" body = a ++ Point.lineFeed :: b →
        a.getLast? = some Point.carriageReturn) ∧
      (layout header "\r\n" body).count Point.lineFeed =
        (layout header "\n" body).count Point.lineFeed ∧
      (layout header "\r\n" body).dropPairedReturns =
        (layout header "\n" body).dropPairedReturns ∧
      layout none "\r\n" (layout header "\r\n" body) = layout header "\r\n" body := by
  rw [layout_paired_eq, layout_lineFeed]
  refine ⟨fun a b => getLast?_of_pairLineFeeds_eq, ?_, dropPairedReturns_pairLineFeeds _, ?_⟩
  · rw [count_lineFeed_pairLineFeeds, count_lineFeed_dropPairedReturns]
  · rw [layout_paired_eq, withHeader, dropPairedReturns_pairLineFeeds]

/-- Of two carriage returns before a line feed one stays, and the line end gets its own. -/
example : layout (some "h") "\r\n" "a\r\r\nb\r" = "# h\r\n\r\na\r\r\nb\r" := by decide

/-! ## Octets -/

/-- **A script file holds all of its text**: behind the mark, if there is one, stands what is read
in the general form as the text, each surrogate in three octets of its own, so that no two texts
have the same octets. An export with these octets is read as the text if it holds no surrogate, and
begins with no mark where none was asked for. -/
theorem encode_lossless (mark : Bool) (s : Text) :
    (∃ octets, encode mark s = (if mark then [0xEF, 0xBB, 0xBF] else []) ++ octets ∧
        Utf8.decode? true octets = some s) ∧
      (∀ p ∈ s, p.isSurrogate → (Utf8.octets p).length = 3) ∧
      (∀ t, encode mark s = encode mark t → s = t) ∧
      (s.IsWhole → (mark = true ∨ s.head? ≠ some Point.byteOrderMark) →
        decodeExport (encode mark s) = s) := by
  have hread : ∀ t, Utf8.decode? true (Utf8.encode t) = some t := fun t =>
    Utf8.decode?_encode true (.inl rfl)
  refine ⟨⟨_, rfl, hread s⟩, fun p _ hp => ?_, fun t h => ?_, fun hs hmark => ?_⟩
  · simp only [Point.isSurrogate, Bool.and_eq_true, decide_eq_true_eq] at hp
    rw [Utf8.octets, if_neg (by omega), if_neg (by omega), if_pos (by omega)]
    rfl
  · have hoctets := congrArg (Utf8.decode? true) (List.append_cancel_left h)
    rw [hread, hread] at hoctets
    exact Option.some.inj hoctets
  · cases mark with
    | true => exact Text.ExportedAs.decodeExport_eq hs .markedUtf8
    | false =>
      exact Text.ExportedAs.decodeExport_eq hs (.utf8 (hmark.resolve_left Bool.false_ne_true))

/-- Surrogates that stand side by side stay two, and a mark of the text itself stays behind the one
of the file. -/
theorem encode_lossless_surrogates :
    encode true [0xD83D, 0xDE00] = [0xEF, 0xBB, 0xBF, 0xED, 0xA0, 0xBD, 0xED, 0xB8, 0x80] ∧
      encode true [0xD83D, 0xDE00] ≠ encode true [0x1F600] ∧
      decodeExport (encode true "\uFEFFé") = "\uFEFFé" :=
  ⟨by decide, fun h => absurd ((encode_lossless true [0xD83D, 0xDE00]).2.2.1 _ h) (by decide),
    (encode_lossless true "\uFEFFé").2.2.2 (by decide) (.inl rfl)⟩

end Script

end HiveScript
