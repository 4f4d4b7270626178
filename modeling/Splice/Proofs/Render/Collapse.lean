import Splice.Render.Sheet

namespace Splice.Render

/-!
# Collapsing blank lines

What spacing rules make of a row of lines, said of the whole row at once.  Blank
lines are dropped, nothing stands before the first line that is kept, and two
lines that are kept one after the other have as many line breaks between them as
they had before, but no more than the rules allow.

A sheet sees the lines one at a time and only counts.  `Settled` relates its
counters to the lines that it has seen: the breaks that wait are the distance
from the last kept line, cut off at the cap.
-/

/-- A line that is kept, with its place among all lines. -/
abbrev KeptLine := Text × Nat

/-- The lines that are not blank. -/
def kept (lines : List Text) : List KeptLine :=
  lines.zipIdx.filter fun line => !Text.allBlank line.1

/-- How many line breaks stand between two lines that are kept one after the other. -/
def gap (spacing : Spacing) (upper lower : KeptLine) : Nat :=
  let most := if opensBracket upper.1 then spacing.capAfterOpen else spacing.cap
  min (lower.2 - upper.2)
    (if closesBracket lower.1 then min most spacing.capBeforeClose else most)

/-- What stands below a line. -/
def below (spacing : Spacing) : KeptLine → List KeptLine → Text
  | _, [] => []
  | upper, lower :: rest =>
      List.replicate (gap spacing upper lower) '\n' ++ lower.1 ++ below spacing lower rest

/-- Lines with the line breaks between them. -/
def stacked (spacing : Spacing) : List KeptLine → Text
  | [] => []
  | first :: rest => first.1 ++ below spacing first rest

/-- The line break after the last kept line of a row of `count` lines. -/
def lastBreak (spacing : Spacing) (count : Nat) (lines : List KeptLine) : Text :=
  match lines.getLast? with
  | none => []
  | some last => if spacing.finalBreak ∧ last.2 + 1 < count then ['\n'] else []

/-- A row of lines under spacing rules. -/
def collapse (spacing : Spacing) (lines : List Text) : Text :=
  stacked spacing (kept lines) ++ lastBreak spacing lines.length (kept lines)

/-- What follows the last kept line is nothing or one feed. -/
theorem lastBreak_cases
    (spacing : Spacing)
    (count : Nat)
    (lines : List KeptLine) :
    lastBreak spacing count lines = [] ∨ lastBreak spacing count lines = ['\n'] := by
  unfold lastBreak
  split
  · exact .inl rfl
  · split
    · exact .inr rfl
    · exact .inl rfl

section

variable {α β : Type} (text : α → Text)

/-- The lines of any kind whose text is not blank. -/
def keptBy (lines : List α) : List (α × Nat) :=
  lines.zipIdx.filter fun line => !Text.allBlank (text line.1)

/-- Items one behind the other, with something between any two neighbours. -/
def pile (between : α → α → List β) (body : α → List β) : List α → List β
  | [] => []
  | [last] => body last
  | upper :: lower :: rest =>
      body upper ++ between upper lower ++ pile between body (lower :: rest)

/-- A piece of a pile is of some item's body or of what stands between two items. -/
theorem mem_pile
    {between : α → α → List β}
    {body : α → List β}
    {items : List α}
    {piece : β}
    (member : piece ∈ pile between body items) :
    (∃ item ∈ items, piece ∈ body item) ∨ ∃ upper lower, piece ∈ between upper lower := by
  fun_induction pile between body items with
  | case1 => cases member
  | case2 last => exact .inl ⟨last, List.mem_cons_self, member⟩
  | case3 upper lower rest inductionHypothesis =>
      rcases List.mem_append.mp member with inFront | inRest
      · rcases List.mem_append.mp inFront with inUpper | inBetween
        · exact .inl ⟨upper, List.mem_cons_self, inUpper⟩
        · exact .inr ⟨upper, lower, inBetween⟩
      · rcases inductionHypothesis inRest with ⟨item, among, inItem⟩ | inBetween
        · exact .inl ⟨item, List.mem_cons_of_mem upper among, inItem⟩
        · exact .inr inBetween

theorem keptBy_append_blank
    (lines : List α)
    {line : α}
    (blank : Text.allBlank (text line) = true) :
    keptBy text (lines ++ [line]) = keptBy text lines := by
  simp [keptBy, List.zipIdx_append, blank]

theorem keptBy_append_solid
    (lines : List α)
    {line : α}
    (solid : Text.allBlank (text line) = false) :
    keptBy text (lines ++ [line]) = keptBy text lines ++ [(line, lines.length)] := by
  simp [keptBy, List.zipIdx_append, solid]

/-- A pile grows by what stands between its last item and the new one, and the new body. -/
theorem pile_append
    {between : α → α → List β}
    {body : α → List β}
    {items : List α}
    {last : α}
    (ends : items.getLast? = some last)
    (item : α) :
    pile between body (items ++ [item]) =
      pile between body items ++ between last item ++ body item := by
  induction items with
  | nil => cases ends
  | cons first rest inductionHypothesis =>
      cases rest with
      | nil =>
          cases ends
          simp [pile]
      | cons next more =>
          have tail := inductionHypothesis (by simpa using ends)
          simp only [List.cons_append, pile] at tail ⊢
          simp [tail]

end

theorem kept_append_blank
    (lines : List Text)
    {line : Text}
    (blank : Text.allBlank line = true) :
    kept (lines ++ [line]) = kept lines :=
  keptBy_append_blank id lines blank

theorem kept_append_solid
    (lines : List Text)
    {line : Text}
    (solid : Text.allBlank line = false) :
    kept (lines ++ [line]) = kept lines ++ [(line, lines.length)] :=
  keptBy_append_solid id lines solid

/-- A kept line's number is that of a line of the page. -/
theorem lt_length_of_mem_kept
    {lines : List Text}
    {line : KeptLine}
    (member : line ∈ kept lines) :
    line.2 < lines.length := by
  have inRow : line ∈ lines.zipIdx := (List.mem_filter.mp member).1
  have bound := (List.mem_zipIdx (x := line.1) (i := line.2) inRow).2.1
  omega

/-- Stacked lines are a pile with feeds between its items. -/
theorem stacked_eq_pile
    (spacing : Spacing)
    (lines : List KeptLine) :
    stacked spacing lines =
      pile (fun upper lower => List.replicate (gap spacing upper lower) '\n') Prod.fst lines := by
  cases lines with
  | nil => rfl
  | cons first rest =>
      induction rest generalizing first with
      | nil => simp [stacked, below, pile]
      | cons lower more inductionHypothesis =>
          have tail := inductionHypothesis lower
          simp only [stacked] at tail
          simp only [stacked, below, pile, ← tail, List.append_assoc]

/-- Stacked text grows by the gap's feeds and the new line. -/
theorem stacked_append
    (spacing : Spacing)
    {lines : List KeptLine}
    {last : KeptLine}
    (ends : lines.getLast? = some last)
    (line : KeptLine) :
    stacked spacing (lines ++ [line]) =
      stacked spacing lines ++ List.replicate (gap spacing last line) '\n' ++ line.1 := by
  rw [stacked_eq_pile, stacked_eq_pile, pile_append ends]

/-- Every cap lets one line break through. -/
theorem Sheet.capAfter_pos
    (spacing : Spacing)
    (line : Text) :
    0 < Sheet.capAfter spacing line := by
  unfold Sheet.capAfter
  split
  · exact spacing.capAfterOpen_pos
  · exact spacing.cap_pos

@[simp] theorem segmentsText_cons
    {μ : Type}
    (segment : Segment μ)
    (rest : List (Segment μ)) :
    segmentsText (segment :: rest) = segment.text ++ segmentsText rest :=
  rfl

@[simp] theorem segmentsText_nil
    {μ : Type} :
    segmentsText ([] : List (Segment μ)) = [] :=
  rfl

@[simp] theorem segmentsText_append
    {μ : Type}
    (first second : List (Segment μ)) :
    segmentsText (first ++ second) = segmentsText first ++ segmentsText second := by
  simp [segmentsText]

variable {μ : Type}

/--
A sheet has settled some lines when its output is those lines under the rules and
its counters belong to the last kept one, `count` line breaks into the row.
-/
structure Settled
    (spacing : Spacing)
    (lines : List Text)
    (count : Nat)
    (sheet : Sheet μ) : Prop where
  output : segmentsText sheet.output = stacked spacing (kept lines)
  start : (kept lines).getLast? = none →
    sheet.pending = 0 ∧ sheet.cap = 0 ∧ sheet.emitted = false
  after : ∀ {last}, (kept lines).getLast? = some last →
    sheet.pending = min (count - last.2) sheet.cap ∧
      sheet.cap = Sheet.capAfter spacing last.1 ∧ sheet.emitted = true

namespace Settled

variable {spacing : Spacing} {lines : List Text} {sheet : Sheet μ}

/--
The breaks that a sheet writes before a line are those between the last kept line
and this one.
-/
theorem breaksBefore_eq
    (settled : Settled spacing lines lines.length sheet)
    {last : KeptLine}
    (ends : (kept lines).getLast? = some last)
    (line : Text) :
    sheet.breaksBefore spacing line = gap spacing last (line, lines.length) := by
  obtain ⟨pending, cap, _⟩ := settled.after ends
  unfold Sheet.capAfter at cap
  unfold Sheet.breaksBefore gap
  simp only [pending, cap]
  split <;> omega

/-- Counting a line break, unless the cap is reached, counts one more line. -/
theorem count
    {count : Nat}
    (settled : Settled spacing lines count sheet)
    (seen : lines.length ≤ count + 1) :
    Settled spacing lines (count + 1)
      (if sheet.pending < sheet.cap then { sheet with pending := sheet.pending + 1 }
        else sheet) := by
  cases ends : (kept lines).getLast? with
  | none =>
      obtain ⟨pending, cap, _⟩ := settled.start ends
      have full : ¬ sheet.pending < sheet.cap := by omega
      simp only [full, ↓reduceIte]
      refine ⟨settled.output, settled.start, ?_⟩
      intro last isLast
      rw [ends] at isLast
      cases isLast
  | some last =>
      obtain ⟨pending, cap, emitted⟩ := settled.after ends
      have inRow := lt_length_of_mem_kept (List.mem_of_getLast? ends)
      have notNone : (kept lines).getLast? ≠ none := by simp [ends]
      by_cases room : sheet.pending < sheet.cap
      · simp only [room, ↓reduceIte]
        refine ⟨settled.output, fun isNone => (notNone isNone).elim, ?_⟩
        intro found isLast
        rw [ends] at isLast
        cases isLast
        exact ⟨by simp only; omega, cap, emitted⟩
      · simp only [room, ↓reduceIte]
        refine ⟨settled.output, fun isNone => (notNone isNone).elim, ?_⟩
        intro found isLast
        rw [ends] at isLast
        cases isLast
        exact ⟨by omega, cap, emitted⟩

variable [Hooks μ]

theorem of_start : Settled spacing [] 0 (Sheet.start : Sheet μ) where
  output := rfl
  start _ := ⟨rfl, rfl, rfl⟩
  after := by
    intro last ends
    simp [kept] at ends

theorem emit
    (settled : Settled spacing lines lines.length sheet)
    (solid : Text.allBlank sheet.lineText = false) :
    Settled spacing (lines ++ [sheet.lineText]) lines.length (sheet.emit spacing) := by
  have nowKept := kept_append_solid lines solid
  have nowLast :
      (kept (lines ++ [sheet.lineText])).getLast? = some (sheet.lineText, lines.length) := by
    rw [nowKept, List.getLast?_concat]
  constructor
  · simp only [Sheet.emit, segmentsText_append, Hooks.segmentsText_feeds, settled.output, nowKept]
    cases ends : (kept lines).getLast? with
    | none =>
        obtain ⟨pending, _, _⟩ := settled.start ends
        have empty : kept lines = [] := List.getLast?_eq_none_iff.mp ends
        have noBreaks : sheet.breaksBefore spacing sheet.lineText = 0 := by
          simp [Sheet.breaksBefore, pending]
        simp only [noBreaks, empty, List.nil_append, stacked, below, List.append_nil,
          List.replicate_zero]
        rfl
    | some last =>
        rw [stacked_append spacing ends, settled.breaksBefore_eq ends]
        rfl
  · intro ends
    rw [nowLast] at ends
    cases ends
  · intro last ends
    rw [nowLast] at ends
    cases ends
    exact ⟨by simp [Sheet.emit], rfl, rfl⟩

/-- Finishing a line settles it; no line break is counted yet. -/
theorem flush
    (settled : Settled spacing lines lines.length sheet)
    (column : Nat) :
    Settled spacing (lines ++ [sheet.lineText]) lines.length (sheet.flush spacing column) := by
  cases blank : Text.allBlank sheet.lineText with
  | true =>
      have same := kept_append_blank lines blank
      simp only [Sheet.flush, blank, ↓reduceIte]
      exact ⟨by rw [same]; exact settled.output, by rw [same]; exact settled.start,
        by rw [same]; exact settled.after⟩
  | false =>
      have written := settled.emit blank
      simp only [Sheet.flush, blank, Bool.false_eq_true, ↓reduceIte]
      exact ⟨written.output, written.start, written.after⟩

/-- Breaking a settled sheet's line settles it, be the line blank or solid. -/
theorem breakLine
    (settled : Settled spacing lines lines.length sheet)
    (column : Nat) :
    Settled spacing (lines ++ [sheet.lineText]) (lines ++ [sheet.lineText]).length
      (sheet.breakLine spacing column) := by
  have counted := (settled.flush column).count (by simp)
  rw [List.length_append, List.length_singleton]
  exact counted

/-- Finishing a sheet adds the line break that belongs behind its last kept line, if one does. -/
theorem output_finish
    (settled : Settled spacing lines lines.length sheet) :
    (sheet.finish spacing).output =
      if lastBreak spacing (lines.length + 1) (kept (lines ++ [sheet.lineText])) = [] then
        (sheet.flush spacing 0).output
      else (sheet.flush spacing 0).output ++ Hooks.feeds 1 := by
  have flushed := settled.flush 0
  unfold Sheet.finish lastBreak
  generalize sheet.flush spacing 0 = next at flushed
  cases ends : (kept (lines ++ [sheet.lineText])).getLast? with
  | none =>
      obtain ⟨_, _, emitted⟩ := flushed.start ends
      simp [emitted]
  | some last =>
      obtain ⟨pending, cap, emitted⟩ := flushed.after ends
      have capPositive := Sheet.capAfter_pos spacing last.1
      have waits : next.pending ≠ 0 ↔ last.2 + 1 < lines.length + 1 := by omega
      have asks :
          (spacing.finalBreak && next.emitted && next.pending != 0) = true ↔
            spacing.finalBreak = true ∧ last.2 + 1 < lines.length + 1 := by
        rw [← waits]
        simp [emitted]
      simp only [asks]
      split <;> rfl

/-- A finished sheet shows all its lines under the rules. -/
theorem finish
    (settled : Settled spacing lines lines.length sheet) :
    segmentsText (sheet.finish spacing).output =
      collapse spacing (lines ++ [sheet.lineText]) := by
  rw [settled.output_finish, collapse, List.length_append, List.length_singleton,
    ← (settled.flush 0).output]
  rcases lastBreak_cases spacing (lines.length + 1) (kept (lines ++ [sheet.lineText])) with
    none | one
  · simp [none]
  · simp [one]

end Settled

end Splice.Render
