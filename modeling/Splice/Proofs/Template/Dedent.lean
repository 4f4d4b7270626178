import Splice.Template.Indent

namespace Splice

/-!
# Dedented lines

What dedenting does to a line: a line that is not blank loses as many characters
as the template is indented, all of them blank, and its blanks at the end; a blank
line becomes empty.
-/

namespace Text

theorem mem_of_mem_trimRight
    {t : Text}
    {c : Char}
    (member : c ∈ trimRight t) :
    c ∈ t := by
  induction t with
  | nil => exact member
  | cons d rest inductionHypothesis =>
      simp only [trimRight] at member
      cases kept : trimRight rest with
      | nil =>
          rw [kept] at member
          by_cases blank : isBlank d <;> simp_all
      | cons e more =>
          rw [kept] at member inductionHypothesis
          rcases List.mem_cons.mp member with rfl | inRest
          · exact List.mem_cons_self
          · exact List.mem_cons_of_mem _ (inductionHypothesis inRest)

theorem allBlank_drop
    {t : Text}
    (blank : allBlank t = true)
    (count : Nat) :
    allBlank (t.drop count) = true :=
  List.all_eq_true.mpr fun c member =>
    List.all_eq_true.mp blank c (List.mem_of_mem_drop member)

theorem leadingBlanks_le_length (t : Text) : leadingBlanks t ≤ t.length :=
  (List.takeWhile_sublist isBlank).length_le

end Text

namespace Template

/--
The indentation of a template: the least count of leading blanks of its lines that
are not blank, and zero when all lines are.
-/
structure IsIndent (template : Text) (indent : Nat) : Prop where
  least : ∀ line ∈ Text.lines template,
    Text.allBlank line = false → indent ≤ Text.leadingBlanks line
  attained :
    (∃ line ∈ Text.lines template,
      Text.allBlank line = false ∧ Text.leadingBlanks line = indent) ∨
    (indent = 0 ∧ ∀ line ∈ Text.lines template, Text.allBlank line = true)

theorem isIndent_minIndent
    (template : Text) :
    IsIndent template (minIndent template) where
  least _ member solid := minIndent_le member solid
  attained := by
    simp only [minIndent]
    cases found :
        (((Text.lines template).filter fun line => !Text.allBlank line).map
          Text.leadingBlanks).min? with
    | none =>
        refine .inr ⟨rfl, ?_⟩
        intro line member
        have noSolid := List.min?_eq_none_iff.mp found
        simp only [List.map_eq_nil_iff, List.filter_eq_nil_iff] at noSolid
        simpa using noSolid line member
    | some indent =>
        obtain ⟨line, member, width⟩ := List.mem_map.mp (List.min?_mem found)
        obtain ⟨inTemplate, solid⟩ := List.mem_filter.mp member
        exact .inl ⟨line, inTemplate, by simpa using solid, by simpa using width⟩

/--
A line without an indentation and without blanks at its end; nothing is left of a
blank line.
-/
def normalLine (indent : Nat) (line : Text) : Text :=
  if Text.allBlank line then [] else Text.trimRight (line.drop indent)

/-- A template without its indentation. -/
def normalText (indent : Nat) (template : Text) : Text :=
  Text.joinLines ((Text.lines template).map (normalLine indent))

theorem dedentLine_eq_normalLine
    {template line : Text}
    (member : line ∈ Text.lines template) :
    dedentLine (minIndent template) line = normalLine (minIndent template) line := by
  unfold dedentLine normalLine
  cases blank : Text.allBlank line with
  | true =>
      split
      · exact Text.trimRight_eq_nil_iff.mpr (Text.allBlank_drop blank _)
      · exact Text.trimRight_eq_nil_iff.mpr blank
  | false =>
      have longEnough : minIndent template ≤ line.length :=
        Nat.le_trans (minIndent_le member blank) (Text.leadingBlanks_le_length line)
      simp only [longEnough, ↓reduceIte, Bool.false_eq_true]

theorem joinLines_dedent
    (template : Text) :
    Text.joinLines (dedent template) = normalText (minIndent template) template := by
  unfold dedent normalText
  rw [List.map_congr_left fun line member => dedentLine_eq_normalLine member]

end Template

end Splice
