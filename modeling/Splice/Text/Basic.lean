namespace Splice

/-!
# Text as a list of characters

Templates, pieces of a document and rendered output are lists of Unicode code
points, so that lengths, columns and cuts count code points and every law about
them is an induction over the list.  This module holds the cutting of a text
into lines and its inverse: `Text.joinLines_lines` says that nothing is lost.
-/

/-- A text is the list of its code points. -/
abbrev Text := List Char

namespace Text

/-- Cut a text at every character that satisfies `stop`, which is dropped; there is always a first part. -/
def splitWhere (stop : Char → Bool) : Text → List Text
  | [] => [[]]
  | c :: rest =>
      if stop c then
        [] :: splitWhere stop rest
      else
        match splitWhere stop rest with
        | [] => [[c]]
        | first :: others => (c :: first) :: others

/-- The lines of a text: a final line feed leaves an empty last line. -/
def lines (t : Text) : List Text :=
  splitWhere (· == '\n') t

/-- Put one line feed between consecutive lines. -/
def joinLines : List Text → Text
  | [] => []
  | [line] => line
  | line :: next :: rest => line ++ '\n' :: joinLines (next :: rest)

/-- Every text has at least one part. -/
theorem splitWhere_ne_nil (stop : Char → Bool) (t : Text) :
    splitWhere stop t ≠ [] := by
  cases t with
  | nil => simp [splitWhere]
  | cons c rest =>
      simp only [splitWhere]
      split
      · simp
      · split <;> simp

/-- No part holds a character at which the text was cut. -/
theorem not_stop_of_mem_splitWhere
    {stop : Char → Bool}
    {t part : Text}
    (member : part ∈ splitWhere stop t)
    {c : Char}
    (inPart : c ∈ part) :
    stop c = false := by
  induction t generalizing part c with
  | nil => simp_all [splitWhere]
  | cons d rest inductionHypothesis =>
      simp only [splitWhere] at member
      by_cases cut : stop d
      · simp only [cut, ↓reduceIte, List.mem_cons] at member
        rcases member with rfl | inRest
        · simp at inPart
        · exact inductionHypothesis inRest inPart
      · simp only [cut, Bool.false_eq_true, ↓reduceIte] at member
        cases parts : splitWhere stop rest with
        | nil => exact absurd parts (splitWhere_ne_nil stop rest)
        | cons first others =>
            rw [parts] at member inductionHypothesis
            simp only [List.mem_cons] at member
            rcases member with rfl | inOthers
            · rcases List.mem_cons.mp inPart with rfl | inFirst
              · simpa using cut
              · exact inductionHypothesis (by simp) inFirst
            · exact inductionHypothesis (by simp [inOthers]) inPart

/-- Joining the lines of a text gives the text back. -/
theorem joinLines_lines (t : Text) : joinLines (lines t) = t := by
  induction t with
  | nil => rfl
  | cons c rest inductionHypothesis =>
      unfold lines at inductionHypothesis ⊢
      simp only [splitWhere]
      cases parts : splitWhere (· == '\n') rest with
      | nil => exact absurd parts (splitWhere_ne_nil _ rest)
      | cons first others =>
          rw [parts] at inductionHypothesis
          by_cases feed : c = '\n'
          · simp [feed, joinLines, inductionHypothesis]
          · simp only [beq_iff_eq, feed, ↓reduceIte]
            cases others with
            | nil => simpa [joinLines] using inductionHypothesis
            | cons next more => simpa [joinLines] using inductionHypothesis

/-- A line holds no line feed. -/
theorem not_feed_of_mem_lines
    {t line : Text}
    (member : line ∈ lines t) :
    '\n' ∉ line := by
  intro feed
  simpa using not_stop_of_mem_splitWhere member feed

/-- Turn a carriage return, alone or before a line feed, into one line feed. -/
def unifyLineEnds : Text → Text
  | [] => []
  | '\r' :: '\n' :: rest => '\n' :: unifyLineEnds rest
  | '\r' :: rest => '\n' :: unifyLineEnds rest
  | c :: rest => c :: unifyLineEnds rest

/-- Whether `t` begins with `start`. -/
def startsWith (start t : Text) : Bool :=
  start.isPrefixOf t

end Text

end Splice
