import Splice.Text.Blank

namespace Splice.Template

/-!
# Indentation

A template may be indented as a whole.  Its indentation is the least count of
blanks in front of a line that is not blank; that many characters are cut from
every line that is long enough, and blanks at the end of a line never count.
-/

/-- The least count of leading blanks of a line that is not blank, and zero when all are. -/
def minIndent (template : Text) : Nat :=
  let solid := (Text.lines template).filter fun line => !Text.allBlank line
  ((solid.map Text.leadingBlanks).min?).getD 0

/-- A line without its indentation and without blanks at its end. -/
def dedentLine (indent : Nat) (line : Text) : Text :=
  Text.trimRight (if indent ≤ line.length then line.drop indent else line)

/-- The lines of a template without their common indentation. -/
def dedent (template : Text) : List Text :=
  (Text.lines template).map (dedentLine (minIndent template))

/-- A dedented template has as many lines as before. -/
theorem length_dedent
    (template : Text) :
    (dedent template).length = (Text.lines template).length := by
  simp [dedent]

/-- The indentation of a template is at most that of each line that is not blank. -/
theorem minIndent_le
    {template line : Text}
    (member : line ∈ Text.lines template)
    (solid : Text.allBlank line = false) :
    minIndent template ≤ Text.leadingBlanks line := by
  unfold minIndent
  have widthMember :
      Text.leadingBlanks line ∈
        ((Text.lines template).filter fun line => !Text.allBlank line).map Text.leadingBlanks :=
    List.mem_map.mpr ⟨line, List.mem_filter.mpr ⟨member, by simp [solid]⟩, rfl⟩
  exact List.min?_getD_le_of_mem widthMember

end Splice.Template
