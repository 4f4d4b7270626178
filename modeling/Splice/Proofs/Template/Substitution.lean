import Splice.Proofs.Render.Rereading
import Splice.Proofs.Template.Scanning

namespace Splice

/-!
# Texts in the place of names

When every name of a template is replaced by a text that fits into a line, nothing changes
in the shape of the template: it has the same lines, the same of them are blank, and they
begin with as many blanks.  So removing the indentation and replacing the names can be done
in either order (`dedent_substitute`).
-/

namespace Text

/-- A text that fits into a line: neither empty nor with blanks at an end. -/
structure Inline (t : Text) : Prop where
  begins : ∃ c more, t = c :: more ∧ isBlank c = false
  ends : ∀ c, t.getLast? = some c → isBlank c = false
  noFeed : '\n' ∉ t

theorem BlankFree.inline
    {t : Text}
    (free : t.BlankFree)
    (notEmpty : t ≠ []) :
    t.Inline where
  begins := by
    rcases List.exists_cons_of_ne_nil notEmpty with ⟨c, more, rfl⟩
    exact ⟨c, more, rfl, free c List.mem_cons_self⟩
  ends := fun c isLast => free c (List.mem_of_getLast? isLast)
  noFeed := free.not_feed

end Text

namespace Template

open Text

/-- A template with the text of each name in its place. -/
def substitute (values : Text → Text) (template : Text) : Text :=
  scan (fun c => [c]) values template

section

variable {values : Text → Text}

/-- A dollar takes the longest run of name characters behind it as its name. -/
theorem substitute_dollar
    (rest : Text) :
    substitute values ('$' :: rest) =
      values (rest.takeWhile isNameChar) ++ substitute values (rest.dropWhile isNameChar) :=
  scan_dollar rest

/-- A character other than a dollar stands for itself. -/
theorem substitute_of_ne
    {c : Char}
    (notDollar : c ≠ '$')
    (rest : Text) :
    substitute values (c :: rest) = c :: substitute values rest :=
  scan_of_ne notDollar rest

/-- Blanks at the front are left as they are. -/
theorem substitute_blanks_append
    {front : Text}
    (blank : allBlank front = true)
    (back : Text) :
    substitute values (front ++ back) = front ++ substitute values back := by
  rw [substitute, scan_blanks_append blank, List.flatMap_singleton']
  rfl

/-- Blanks at the end are left as they are. -/
theorem substitute_append_blanks
    (front : Text)
    {back : Text}
    (blank : allBlank back = true) :
    substitute values (front ++ back) = substitute values front ++ back := by
  rw [substitute, scan_append_blanks front blank, List.flatMap_singleton']
  rfl

theorem substitute_of_blank
    {line : Text}
    (blank : allBlank line = true) :
    substitute values line = line := by
  have whole : substitute values (line ++ []) = line ++ substitute values [] :=
    substitute_blanks_append blank []
  rw [List.append_nil] at whole
  rw [whole, substitute, scan_nil, List.append_nil]

/-- Only what names stand for decides what becomes of a template. -/
theorem substitute_congr
    {others : Text → Text}
    {template : Text}
    (same : ∀ name ∈ placeholders template, values name = others name) :
    substitute values template = substitute others template := by
  rw [substitute, substitute, ← flatMap_read_parts, ← flatMap_read_parts]
  simp only [List.flatMap_def]
  congr 1
  apply List.map_congr_left
  intro part member
  cases part with
  | literal text => rfl
  | placeholder name =>
      apply same
      rw [placeholders, List.mem_eraseDups]
      exact List.mem_filterMap.mpr ⟨_, member, rfl⟩

/-- Lines may be joined before or after the names are replaced. -/
theorem substitute_joinLines
    (rows : List Text) :
    substitute values (joinLines rows) = joinLines (rows.map (substitute values)) := by
  induction rows with
  | nil => exact scan_nil
  | cons line rest inductionHypothesis =>
      cases rest with
      | nil => rfl
      | cons next more =>
          rw [joinLines, substitute, scan_append_feed, ← substitute, ← substitute,
            inductionHypothesis]
          rfl

end

section

variable {values : Text → Text} (inline : ∀ name, (values name).Inline)

include inline

/-- Behind a solid first character the substituted text starts solid too. -/
theorem substitute_solid
    {c : Char}
    (solid : isBlank c = false)
    (rest : Text) :
    ∃ d more, substitute values (c :: rest) = d :: more ∧ isBlank d = false := by
  by_cases isDollar : c = '$'
  · rw [isDollar, substitute_dollar]
    rcases (inline (rest.takeWhile isNameChar)).begins with ⟨d, more, shape, dSolid⟩
    rw [shape]
    exact ⟨d, _, rfl, dSolid⟩
  · exact ⟨c, _, substitute_of_ne isDollar rest, solid⟩

theorem substitute_cons_ne_nil
    (c : Char)
    (rest : Text) :
    substitute values (c :: rest) ≠ [] := by
  by_cases isDollar : c = '$'
  · rcases (inline (rest.takeWhile isNameChar)).begins with ⟨d, more, shape, _⟩
    rw [isDollar, substitute_dollar, shape]
    exact List.cons_ne_nil _ _
  · rw [substitute_of_ne isDollar]
    exact List.cons_ne_nil _ _

/-- A text that ends solid is substituted by one that does. -/
theorem substitute_ends
    {text : Text}
    (ends : ∀ c, text.getLast? = some c → isBlank c = false) :
    ∀ c, (substitute values text).getLast? = some c → isBlank c = false := by
  have backEnds (front back : Text)
      (wholeEnds : ∀ c, (front ++ back).getLast? = some c → isBlank c = false) :
      ∀ c, back.getLast? = some c → isBlank c = false := by
    intro c isLast
    apply wholeEnds
    rw [List.getLast?_append, isLast]
    rfl
  unfold substitute
  fun_induction scan (fun c => [c]) values text with
  | case1 => exact ends
  | case2 rest inductionHypothesis =>
      intro c isLast
      rw [List.getLast?_append, Option.or_eq_some_iff] at isLast
      rcases isLast with inRest | ⟨_, inValue⟩
      · refine inductionHypothesis (backEnds ('$' :: rest.takeWhile isNameChar) _ ?_) c inRest
        rw [List.cons_append, List.takeWhile_append_dropWhile]
        exact ends
      · exact (inline _).ends c inValue
  | case3 c rest notDollar inductionHypothesis =>
      intro d isLast
      rw [List.getLast?_append, Option.or_eq_some_iff] at isLast
      rcases isLast with inRest | ⟨nothing, isFirst⟩
      · exact inductionHypothesis (backEnds [c] rest ends) d inRest
      · -- Only the last character has nothing behind it once the names are replaced.
        cases rest with
        | nil => exact ends d isFirst
        | cons e more =>
            have empty := List.getLast?_eq_none_iff.mp nothing
            exact (substitute_cons_ne_nil inline e more empty).elim

/-- Substitution commutes with trimming on the right. -/
theorem trimRight_substitute
    (text : Text) :
    trimRight (substitute values text) = substitute values (trimRight text) := by
  rcases exists_trimRight text with ⟨blanks, shape, allOf⟩
  have solidEnd := substitute_ends inline fun c => isBlank_of_getLast?_trimRight (t := text)
  calc
    trimRight (substitute values text) =
        trimRight (substitute values (trimRight text) ++ blanks) := by
      rw [← substitute_append_blanks _ allOf, ← shape]
    _ = trimRight (substitute values (trimRight text)) := trimRight_append_blank _ allOf
    _ = substitute values (trimRight text) := trimRight_eq_self solidEnd

/-- A line that is not blank begins with as many blanks as before, and is not blank. -/
theorem solid_substitute
    {line : Text}
    (solid : allBlank line = false) :
    allBlank (substitute values line) = false ∧
      leadingBlanks (substitute values line) = leadingBlanks line := by
  rcases exists_solid solid with ⟨blanks, c, rest, rfl, allOf, cSolid⟩
  rcases substitute_solid inline cSolid rest with ⟨d, more, shape, dSolid⟩
  rw [substitute_blanks_append allOf, shape]
  exact ⟨allBlank_append_solid dSolid,
    (leadingBlanks_solid allOf dSolid).trans (leadingBlanks_solid allOf cSolid).symm⟩

/-- Substitution makes no line blank and no blank line solid. -/
theorem allBlank_substitute
    (line : Text) :
    allBlank (substitute values line) = allBlank line := by
  cases blank : allBlank line with
  | true => rw [substitute_of_blank blank, blank]
  | false => exact (solid_substitute inline blank).1

/-- Substitution commutes with taking off the common indentation. -/
theorem normalLine_substitute
    {line : Text}
    {indent : Nat}
    (within : allBlank line = false → indent ≤ leadingBlanks line) :
    normalLine indent (substitute values line) = substitute values (normalLine indent line) := by
  cases blank : allBlank line with
  | true =>
      rw [substitute_of_blank blank, normalLine_of_blank indent blank, substitute, scan_nil]
  | false =>
      rcases exists_solid blank with ⟨blanks, c, rest, rfl, allOf, solid⟩
      rcases substitute_solid inline solid rest with ⟨d, more, shape, dSolid⟩
      have inside := within blank
      rw [leadingBlanks_solid allOf solid] at inside
      rw [substitute_blanks_append allOf, shape, normalLine_solid dSolid inside, ← shape,
        normalLine_solid solid inside, substitute_blanks_append (allBlank_drop allOf indent),
        trimRight_substitute inline]

/-- Values of one line put no feed into a text. -/
theorem not_feed_substitute
    {text : Text}
    (noFeed : '\n' ∉ text) :
    '\n' ∉ substitute values text := by
  unfold substitute
  fun_induction scan (fun c => [c]) values text with
  | case1 => exact noFeed
  | case2 rest inductionHypothesis =>
      intro feed
      have restFree := (List.not_mem_of_not_mem_cons noFeed)
      rcases List.mem_append.mp feed with inValue | inRest
      · exact (inline _).noFeed inValue
      · refine inductionHypothesis ?_ inRest
        exact fun member => restFree ((List.dropWhile_sublist isNameChar).subset member)
  | case3 c rest notDollar inductionHypothesis =>
      simp only [List.mem_cons, not_or] at noFeed
      simpa [noFeed.1] using inductionHypothesis noFeed.2

/-- A template has the same lines whether names are replaced before or after it is cut. -/
theorem lines_substitute
    (template : Text) :
    Text.lines (substitute values template) =
      (Text.lines template).map (substitute values) := by
  have cut : Text.lines (joinLines ((Text.lines template).map (substitute values))) =
      (Text.lines template).map (substitute values) := by
    apply lines_joinLines
    · intro line member
      rcases List.mem_map.mp member with ⟨source, inTemplate, rfl⟩
      exact not_feed_substitute inline (not_feed_of_mem_lines inTemplate)
    · simp only [ne_eq, List.map_eq_nil_iff]
      exact splitWhere_ne_nil _ template
  rw [← substitute_joinLines, joinLines_lines] at cut
  exact cut

/-- Substitution leaves the least indentation of a template. -/
theorem minIndent_substitute
    (template : Text) :
    minIndent (substitute values template) = minIndent template := by
  have widths (rows : List Text) :
      ((rows.map (substitute values)).filter fun line => !allBlank line).map leadingBlanks =
        (rows.filter fun line => !allBlank line).map leadingBlanks := by
    induction rows with
    | nil => rfl
    | cons line rest inductionHypothesis =>
        cases blank : allBlank line with
        | true => simpa [allBlank_substitute inline, blank] using inductionHypothesis
        | false =>
            simpa [allBlank_substitute inline, blank, (solid_substitute inline blank).2]
              using inductionHypothesis
  simp only [minIndent, lines_substitute inline, widths]

/-- Names may be replaced before or after the indentation is removed. -/
theorem dedent_substitute
    (template : Text) :
    dedent (substitute values template) = (dedent template).map (substitute values) := by
  rw [dedent_eq_map, dedent_eq_map, minIndent_substitute inline, lines_substitute inline,
    List.map_map, List.map_map]
  apply List.map_congr_left
  intro line member
  exact normalLine_substitute inline (minIndent_le member)

end

end Template

end Splice
