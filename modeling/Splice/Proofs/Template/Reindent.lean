import Mathlib.Data.List.Forall2
import Splice.Proofs.Render.Rereading
import Splice.Proofs.Template.Binding

namespace Splice.Template

/-!
# Indentation is not seen

A template may be moved to the right as a whole, with any blanks, and any blanks may stand at
the ends of its lines and on its blank lines.  Nothing of that reaches the operations, since
the dedented lines are the same (`Shifted.dedent_eq`), and compiling looks at nothing else.
-/

open Text

/-- A line with blanks around it, `width` of them in front; a blank line may be any blank line. -/
inductive ShiftedLine (width : Nat) (line : Text) : Text → Prop where
  | blank {other : Text}
      (lineBlank : allBlank line = true)
      (otherBlank : allBlank other = true) :
      ShiftedLine width line other
  | solid {front back : Text}
      (lineSolid : allBlank line = false)
      (frontBlank : allBlank front = true)
      (frontWidth : front.length = width)
      (backBlank : allBlank back = true) :
      ShiftedLine width line (front ++ line ++ back)

/-- A template that is moved to the right, with whatever blanks cannot be seen. -/
def Shifted (width : Nat) (template other : Text) : Prop :=
  List.Forall₂ (ShiftedLine width) (Text.lines template) (Text.lines other)

namespace ShiftedLine

variable {width indent : Nat} {line other : Text}

/-- Both lines begin with blanks in front of the same character. -/
theorem exists_solid
    (shifted : ShiftedLine width line other)
    (solid : allBlank line = false) :
    ∃ front blanks c rest back,
      line = blanks ++ c :: rest ∧ other = (front ++ blanks) ++ c :: (rest ++ back) ∧
      front.length = width ∧ allBlank blanks = true ∧ allBlank (front ++ blanks) = true ∧
      isBlank c = false ∧ allBlank back = true := by
  cases shifted with
  | blank lineBlank _ =>
      rw [solid] at lineBlank
      cases lineBlank
  | @solid front back _ frontBlank frontWidth backBlank =>
      rcases Text.exists_solid solid with ⟨blanks, c, rest, rfl, allOf, cSolid⟩
      refine ⟨front, blanks, c, rest, back, rfl, by simp, frontWidth, allOf, ?_, cSolid, backBlank⟩
      unfold allBlank at *
      rw [List.all_append, frontBlank, allOf]
      rfl

theorem allBlank_eq
    (shifted : ShiftedLine width line other) :
    allBlank other = allBlank line := by
  cases blank : allBlank line with
  | true =>
      cases shifted with
      | blank _ otherBlank => exact otherBlank
      | solid lineSolid _ _ _ => rw [blank] at lineSolid; cases lineSolid
  | false =>
      rcases shifted.exists_solid blank with
        ⟨front, blanks, c, rest, back, _, rfl, _, _, _, solid, _⟩
      exact allBlank_append_solid solid

theorem leadingBlanks_eq
    (shifted : ShiftedLine width line other)
    (solid : allBlank line = false) :
    leadingBlanks other = leadingBlanks line + width := by
  rcases shifted.exists_solid solid with
    ⟨front, blanks, c, rest, back, rfl, rfl, rfl, allOf, moreBlank, cSolid, _⟩
  rw [leadingBlanks_solid moreBlank cSolid, leadingBlanks_solid allOf cSolid, List.length_append,
    Nat.add_comm]

/-- A shifted line loses what it was shifted by. -/
theorem normalLine_eq
    (shifted : ShiftedLine width line other)
    (within : allBlank line = false → indent ≤ leadingBlanks line) :
    normalLine (indent + width) other = normalLine indent line := by
  cases blank : allBlank line with
  | true =>
      rw [normalLine_of_blank _ blank, normalLine_of_blank _ (shifted.allBlank_eq.trans blank)]
  | false =>
      have inside := within blank
      rcases shifted.exists_solid blank with
        ⟨front, blanks, c, rest, back, rfl, rfl, rfl, allOf, _, cSolid, backBlank⟩
      rw [leadingBlanks_solid allOf cSolid] at inside
      have moreInside : indent + front.length ≤ (front ++ blanks).length := by
        rw [List.length_append, Nat.add_comm]
        exact Nat.add_le_add_left inside _
      have dropped : (front ++ blanks).drop (indent + front.length) = blanks.drop indent := by
        rw [Nat.add_comm, List.drop_length_add_append]
      rw [normalLine_solid cSolid moreInside, normalLine_solid cSolid inside, dropped,
        ← List.cons_append, trimRight_append_blank _ backBlank]

end ShiftedLine

namespace Shifted

variable {width : Nat} {template other : Text}

theorem exists_of_forall₂
    {R : Text → Text → Prop}
    {rows others : List Text}
    (related : List.Forall₂ R rows others)
    {line : Text}
    (member : line ∈ rows) :
    ∃ moved ∈ others, R line moved := by
  induction related with
  | nil => cases member
  | cons first _ inductionHypothesis =>
      rcases List.mem_cons.mp member with rfl | later
      · exact ⟨_, List.mem_cons_self, first⟩
      · rcases inductionHypothesis later with ⟨moved, inRest, isMoved⟩
        exact ⟨moved, List.mem_cons_of_mem _ inRest, isMoved⟩

theorem exists_line
    (shifted : Shifted width template other)
    {line : Text}
    (member : line ∈ Text.lines template) :
    ∃ moved ∈ Text.lines other, ShiftedLine width line moved :=
  exists_of_forall₂ shifted member

theorem exists_source
    (shifted : Shifted width template other)
    {moved : Text}
    (member : moved ∈ Text.lines other) :
    ∃ line ∈ Text.lines template, ShiftedLine width line moved :=
  exists_of_forall₂ shifted.flip member

theorem isIndent
    (shifted : Shifted width template other)
    {line : Text}
    (member : line ∈ Text.lines template)
    (solid : allBlank line = false) :
    IsIndent other (minIndent template + width) where
  least := by
    intro moved inOther movedSolid
    rcases shifted.exists_source inOther with ⟨source, inTemplate, isMoved⟩
    have sourceSolid := isMoved.allBlank_eq.symm.trans movedSolid
    rw [isMoved.leadingBlanks_eq sourceSolid]
    exact Nat.add_le_add_right (minIndent_le inTemplate sourceSolid) width
  attained := by
    rcases (isIndent_minIndent template).attained with
      ⟨least, inTemplate, leastSolid, isLeast⟩ | ⟨_, allOf⟩
    · rcases shifted.exists_line inTemplate with ⟨moved, inOther, isMoved⟩
      refine .inl ⟨moved, inOther, isMoved.allBlank_eq.trans leastSolid, ?_⟩
      rw [isMoved.leadingBlanks_eq leastSolid, isLeast]
    · rw [allOf line member] at solid
      cases solid

theorem dedent_eq
    (shifted : Shifted width template other) :
    dedent other = dedent template := by
  have sameLines {first second : Nat}
      (same : ∀ {line moved}, line ∈ Text.lines template → ShiftedLine width line moved →
        normalLine second moved = normalLine first line) :
      (Text.lines other).map (normalLine second) =
        (Text.lines template).map (normalLine first) := by
    unfold Shifted at shifted
    generalize Text.lines template = rows at shifted same
    generalize Text.lines other = others at shifted
    induction shifted with
    | nil => rfl
    | cons isMoved _ inductionHypothesis =>
        rw [List.map_cons, List.map_cons, same List.mem_cons_self isMoved,
          inductionHypothesis fun member => same (List.mem_cons_of_mem _ member)]
  rw [dedent_eq_map, dedent_eq_map]
  by_cases someSolid : ∃ line ∈ Text.lines template, allBlank line = false
  · rcases someSolid with ⟨line, member, solid⟩
    rw [(isIndent_minIndent other).unique (shifted.isIndent member solid)]
    exact sameLines fun inTemplate isMoved => isMoved.normalLine_eq (minIndent_le inTemplate)
  · -- Without a line that is not blank there is nothing left of either template.
    apply sameLines
    intro line moved inTemplate isMoved
    have blank : allBlank line = true := by
      by_contra notBlank
      exact someSolid ⟨line, inTemplate, by simpa using notBlank⟩
    rw [normalLine_of_blank _ blank, normalLine_of_blank _ (isMoved.allBlank_eq.trans blank)]

theorem pieces_eq
    (shifted : Shifted width template other)
    (scan : Bool) :
    pieces scan other = pieces scan template := by
  rw [pieces, shifted.dedent_eq, pieces]

end Shifted

/-- The same fault in another template. -/
def Fault.movedTo (other : Text) : Fault → Fault
  | .unresolved name _ site => .unresolved name (some other) site
  | .unconvertible typeName => .unconvertible typeName

/-- A shifted template compiles to the same operations, or lacks the same name. -/
theorem Shifted.compile_eq
    {width : Nat}
    {template other : Text}
    (shifted : Shifted width template other)
    (site : Option Token)
    (arguments : Option (List (Text × Value Document))) :
    compile other site arguments =
      (compile template site arguments).mapError (Fault.movedTo other) := by
  cases arguments with
  | none =>
      simp only [compile, assembleLiterals, shifted.pieces_eq]
      rfl
  | some pairs =>
      simp only [compile, shifted.pieces_eq, bind, Except.bind]
      cases bound : bindAfter [] pairs with
      | error fault =>
          rcases unconvertible_of_bindAfter bound with ⟨typeName, rfl⟩
          rfl
      | ok binding =>
          dsimp only
          cases assemble .fixed binding (markers site).length [] (pieces true template) with
          | error name => rfl
          | ok operations => rfl

/-- The characters of a text that can be seen. -/
def visible (text : Text) : Text :=
  text.filter fun c => !isBlank c

theorem visible_of_blank
    {text : Text}
    (blank : allBlank text = true) :
    visible text = [] := by
  unfold visible
  rw [List.filter_eq_nil_iff]
  intro c member
  simpa using List.all_eq_true.mp blank c member

/-- Removing an indentation removes nothing that can be seen. -/
theorem visible_normalLine
    {line : Text}
    {indent : Nat}
    (within : allBlank line = false → indent ≤ leadingBlanks line) :
    visible (normalLine indent line) = visible line := by
  refine apply_normalLine ?_ ?_ within
  · intro blanks text blank
    rw [visible, List.filter_append, ← visible, visible_of_blank blank]
    rfl
  · intro text blanks blank
    rw [visible, List.filter_append, ← visible, ← visible, visible_of_blank blank,
      List.append_nil]

/--
Dedenting sees no blanks but those between the indentation and the end of a line.  However a
template is moved to the right as a whole, it compiles to the same operations, or lacks the
same name; a line of the template that is not blank is left without blanks in front; and of
no line anything is removed that can be seen.
-/
theorem dedent_uniform
    (template : Text) :
    (∀ {width other},
      Shifted width template other →
      ∀ site arguments,
        compile other site arguments =
          (compile template site arguments).mapError (Fault.movedTo other)) ∧
    ((∃ line ∈ Text.lines template, allBlank line = false) →
      ∃ line ∈ dedent template, allBlank line = false ∧ leadingBlanks line = 0) ∧
    (dedent template).map visible = (Text.lines template).map visible := by
  refine ⟨fun shifted => shifted.compile_eq, ?_, ?_⟩
  · rintro ⟨line, member, solid⟩
    have pared := pared_normalLine solid (minIndent_le member solid)
    have inDedented : normalLine (minIndent template) line ∈ dedent template := by
      rw [dedent_eq_map]
      exact List.mem_map_of_mem member
    exact Render.exists_flush_of_mem_dedent inDedented pared.solid
  · rw [dedent_eq_map, List.map_map]
    apply List.map_congr_left
    intro line member
    exact visible_normalLine (minIndent_le member)

/-- A template with a line that is indented further, and the same one as it may be written. -/
def guardedStep : Text :=
  "if $test\n\n  step;\n".toList

def guardedStepShifted : Text :=
  " \tif $test\r\n\u00a0\n\u2003\t  step;  \r\n\t".toList

theorem shifted_guardedStep : Shifted 2 guardedStep guardedStepShifted := by
  have lines :
      Text.lines guardedStep = ["if $test".toList, [], "  step;".toList, []] := by
    decide +kernel
  have shiftedLines :
      Text.lines guardedStepShifted =
        [" \tif $test\r".toList, "\u00a0".toList, "\u2003\t  step;  \r".toList,
          "\t".toList] := by
    decide +kernel
  have first : ShiftedLine 2 "if $test".toList (" \t".toList ++ "if $test".toList ++ ['\r']) :=
    .solid rfl rfl rfl rfl
  have third :
      ShiftedLine 2 "  step;".toList
        ("\u2003\t".toList ++ "  step;".toList ++ "  \r".toList) :=
    .solid rfl rfl rfl rfl
  unfold Shifted
  rw [lines, shiftedLines]
  exact .cons first (.cons (.blank rfl rfl) (.cons third (.cons (.blank rfl rfl) .nil)))

/-- Both forms of the template compile to the same operations and lack the same name. -/
theorem dedent_uniform_guardedStep :
    Shifted 2 guardedStep guardedStepShifted ∧
    compile guardedStepShifted none (some [("test".toList, .bool true)]) =
      .ok ⟨[.fixed "if ".toList, .block [.fixed "true".toList], .newline, .newline,
        .fixed "  step;".toList, .newline], [], 1⟩ ∧
    compile guardedStepShifted none (some []) =
      .error (.unresolved "test".toList (some guardedStepShifted) none) ∧
    ∃ line ∈ dedent guardedStep, allBlank line = false ∧ leadingBlanks line = 0 := by
  have uniform := dedent_uniform guardedStep
  have compiled :
      compile guardedStep none (some [("test".toList, .bool true)]) =
        .ok ⟨[.fixed "if ".toList, .block [.fixed "true".toList], .newline, .newline,
          .fixed "  step;".toList, .newline], [], 1⟩ := by
    rfl
  have refused :
      compile guardedStep none (some []) =
        .error (.unresolved "test".toList (some guardedStep) none) := by
    rfl
  refine ⟨shifted_guardedStep, ?_, ?_, ?_⟩
  · rw [uniform.1 shifted_guardedStep, compiled]
    rfl
  · rw [uniform.1 shifted_guardedStep, refused]
    rfl
  · exact uniform.2.1 ⟨"if $test".toList, by decide +kernel, by decide⟩

end Splice.Template
