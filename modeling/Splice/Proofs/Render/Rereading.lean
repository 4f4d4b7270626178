import Splice.Proofs.Render.PlainLayout
import Splice.Proofs.Render.Respacing
import Splice.Proofs.Render.TextLayout
import Splice.Proofs.Template.SoundDocuments

namespace Splice

/-!
# Rendered text that is read back

Rendered text can be read back as a document and rendered again, under rules that allow as
many line breaks or fewer.  Reading it removes its indentation and the blanks at the ends
of its lines, which spacing rules do not see; so the result is what these rules make of the
first document, without the indentation.
-/

namespace Template

theorem dedent_eq_map
    (template : Text) :
    dedent template = (Text.lines template).map (normalLine (minIndent template)) := by
  unfold dedent
  exact List.map_congr_left fun line member => dedentLine_eq_normalLine member

/-- Removing an indentation and blanks at the end of lines is not seen by spacing rules. -/
theorem unseen_normalLine
    {indent : Nat}
    {lines : List Text}
    (within : ∀ line ∈ lines, Text.allBlank line = false → indent ≤ Text.leadingBlanks line) :
    Render.Unseen (normalLine indent) lines where
  empty := rfl
  blank := by
    intro line member
    cases blank : Text.allBlank line with
    | true =>
        rw [normalLine_of_blank indent blank]
        rfl
    | false => exact (pared_normalLine blank (within line member blank)).solid
  opens := by
    intro line member solid
    exact (pared_normalLine solid (within line member solid)).opensBracket_eq
  closes := by
    intro line member solid
    exact (pared_normalLine solid (within line member solid)).closesBracket_eq

/-- A text has one indentation. -/
theorem IsIndent.unique
    {text : Text}
    {first second : Nat}
    (isFirst : IsIndent text first)
    (isSecond : IsIndent text second) :
    first = second := by
  rcases isFirst.attained with ⟨line, member, solid, width⟩ | ⟨zero, blank⟩
  · rcases isSecond.attained with ⟨other, otherMember, otherSolid, otherWidth⟩ | ⟨_, blank⟩
    · have firstLeast := isFirst.least other otherMember otherSolid
      have secondLeast := isSecond.least line member solid
      omega
    · rw [blank line member] at solid
      cases solid
  · rcases isSecond.attained with ⟨other, otherMember, otherSolid, _⟩ | ⟨otherZero, _⟩
    · rw [blank other otherMember] at otherSolid
      cases otherSolid
    · rw [zero, otherZero]

/-- An indentation is decided by the lines that are not blank. -/
theorem IsIndent.of_solid_lines
    {first second : Text}
    (same : ∀ line, Text.allBlank line = false →
      (line ∈ Text.lines first ↔ line ∈ Text.lines second))
    {indent : Nat}
    (isIndent : IsIndent first indent) :
    IsIndent second indent where
  least := by
    intro line member solid
    exact isIndent.least line ((same line solid).mpr member) solid
  attained := by
    rcases isIndent.attained with ⟨line, member, solid, width⟩ | ⟨zero, allBlank⟩
    · exact .inl ⟨line, (same line solid).mp member, solid, width⟩
    · refine .inr ⟨zero, ?_⟩
      intro line member
      cases blank : Text.allBlank line with
      | true => rfl
      | false =>
          have wasBlank := allBlank line ((same line blank).mpr member)
          rw [blank] at wasBlank
          cases wasBlank

end Template

namespace Render

open Template

section

variable (spacing : Spacing) {lines : List Text}

/--
Text under spacing rules is cut into the lines that the rules make; if they make none, it
is the empty text, whose only line is empty.
-/
theorem lines_collapse
    (free : ∀ line ∈ lines, '\n' ∉ line) :
    Text.lines (collapse spacing lines) = respaced spacing lines ∨
      (Text.lines (collapse spacing lines) = [[]] ∧ respaced spacing lines = []) := by
  rw [collapse_eq_joinLines]
  cases made : respaced spacing lines with
  | nil => exact .inr ⟨rfl, rfl⟩
  | cons first rest =>
      refine .inl (Text.lines_joinLines ?_ (by simp))
      intro line member
      rw [← made] at member
      rcases mem_respaced spacing lines member with rfl | inLines
      · simp
      · exact free line inLines

theorem mem_lines_collapse
    (free : ∀ line ∈ lines, '\n' ∉ line)
    {line : Text}
    (solid : Text.allBlank line = false) :
    line ∈ Text.lines (collapse spacing lines) ↔ line ∈ lines := by
  have notEmpty : line ≠ [] := by
    rintro rfl
    cases solid
  have known : line ∈ respaced spacing lines ↔ line ∈ lines :=
    ⟨fun member => (mem_respaced spacing lines member).resolve_left notEmpty,
      fun member => mem_respaced_of_mem spacing lines member solid⟩
  rcases lines_collapse spacing free with same | ⟨one, none⟩
  · rw [same, known]
  · rw [one, ← known, none]
    simp [notEmpty]

end

/-- A line of a dedented text is empty, or it is not blank and ends with no blank. -/
theorem mem_dedent
    {text line : Text}
    (member : line ∈ dedent text) :
    line = [] ∨ (Text.allBlank line = false ∧ Text.trimRight line = line) := by
  rw [dedent_eq_map] at member
  rcases List.mem_map.mp member with ⟨source, inText, rfl⟩
  cases blank : Text.allBlank source with
  | true => exact .inl (normalLine_of_blank _ blank)
  | false =>
      have pared := pared_normalLine blank (minIndent_le inText blank)
      exact .inr ⟨pared.solid, pared.trimmed⟩

/-- A dedented text has no indentation left, unless it has no line with content. -/
theorem exists_flush_of_mem_dedent
    {text line : Text}
    (member : line ∈ dedent text)
    (solid : Text.allBlank line = false) :
    ∃ flush ∈ dedent text, Text.allBlank flush = false ∧ Text.leadingBlanks flush = 0 := by
  rw [dedent_eq_map] at member ⊢
  rcases List.mem_map.mp member with ⟨source, inText, rfl⟩
  rcases (isIndent_minIndent text).attained with ⟨least, leastIn, leastSolid, width⟩ | ⟨_, blank⟩
  · have pared := pared_normalLine leastSolid (Nat.le_of_eq width.symm)
    refine ⟨_, List.mem_map_of_mem leastIn, pared.solid, ?_⟩
    rw [pared.leading, width, Nat.sub_self]
  · rw [normalLine_of_blank _ (blank source inText)] at solid
    cases solid

/--
Dedented text under tight rules is what the rules make of the lines behind it, dedented.
-/
theorem collapse_dedent_collapse
    {tight loose : Spacing}
    (within : tight.Within loose)
    {lines : List Text}
    (free : ∀ line ∈ lines, '\n' ∉ line) :
    ∃ indent,
      IsIndent (collapse tight lines) indent ∧
      collapse tight (dedent (collapse loose lines)) =
        normalText indent (collapse tight lines) := by
  have sameSolid : ∀ line, Text.allBlank line = false →
      (line ∈ Text.lines (collapse loose lines) ↔ line ∈ Text.lines (collapse tight lines)) := by
    intro line solid
    rw [mem_lines_collapse loose free solid, mem_lines_collapse tight free solid]
  have isIndent := (isIndent_minIndent (collapse loose lines)).of_solid_lines sameSolid
  have dedented := dedent_eq_map (collapse loose lines)
  have unseen :
      Unseen (normalLine (minIndent (collapse loose lines))) (respaced loose lines) := by
    apply unseen_normalLine
    intro line member solid
    rcases mem_respaced loose lines member with rfl | inLines
    · cases solid
    · exact minIndent_le ((mem_lines_collapse loose free solid).mpr inLines) solid
  generalize minIndent (collapse loose lines) = indent at isIndent dedented unseen
  -- The empty text has one line and the rules make none, but both come to nothing.
  have readLoose :
      respaced tight ((Text.lines (collapse loose lines)).map (normalLine indent)) =
        respaced tight ((respaced loose lines).map (normalLine indent)) := by
    rcases lines_collapse loose free with same | ⟨one, none⟩
    · rw [same]
    · rw [one, none]
      rfl
  have readTight :
      Text.joinLines ((respaced tight lines).map (normalLine indent)) =
        normalText indent (collapse tight lines) := by
    unfold normalText
    rcases lines_collapse tight free with same | ⟨one, none⟩
    · rw [same]
    · rw [one, none]
      rfl
  refine ⟨indent, isIndent, ?_⟩
  rw [dedented, collapse_eq_joinLines, readLoose, unseen.respaced_map,
    respaced_respaced within, readTight]

theorem not_feed_of_mem_dedent
    {text line : Text}
    (member : line ∈ dedent text) :
    '\n' ∉ line := by
  rcases List.mem_map.mp member with ⟨source, inText, rfl⟩
  exact fun feed => Text.not_feed_of_mem_lines inText (mem_of_mem_dedentLine feed)

/-- Dedented text under spacing rules has nothing that dedenting would remove. -/
theorem normalText_collapse_dedent
    (spacing : Spacing)
    (text : Text)
    {indent : Nat}
    (isIndent : IsIndent (collapse spacing (dedent text)) indent) :
    normalText indent (collapse spacing (dedent text)) = collapse spacing (dedent text) := by
  have free : ∀ line ∈ dedent text, '\n' ∉ line := fun line => not_feed_of_mem_dedent
  have unchanged : ∀ line ∈ Text.lines (collapse spacing (dedent text)),
      normalLine indent line = line := by
    intro line member
    cases blank : Text.allBlank line with
    | true =>
        rw [normalLine_of_blank indent blank]
        rcases lines_collapse spacing free with same | ⟨one, _⟩
        · rw [same] at member
          rcases mem_respaced spacing _ member with rfl | inText
          · rfl
          · rcases mem_dedent inText with rfl | ⟨solid, _⟩
            · rfl
            · rw [blank] at solid
              cases solid
        · rw [one] at member
          exact (List.mem_singleton.mp member).symm
    | false =>
        have inText := (mem_lines_collapse spacing free blank).mp member
        rcases exists_flush_of_mem_dedent inText blank with ⟨flush, flushIn, solid, width⟩
        have least :=
          isIndent.least flush ((mem_lines_collapse spacing free solid).mpr flushIn) solid
        have zero : indent = 0 := by
          rw [width] at least
          exact Nat.le_zero.mp least
        rcases mem_dedent inText with rfl | ⟨_, trimmed⟩
        · cases blank
        · simp [normalLine, blank, zero, trimmed]
  unfold normalText
  rw [List.map_congr_left unchanged, List.map_id', Text.joinLines_lines]

theorem plain_ofText
    (spacing : Spacing)
    (text : Text) :
    plain spacing (Document.ofText text) = .ok (collapse spacing (dedent text)) :=
  plain_of_layout spacing (Document.sound_ofText text).resolves
    (congrArg (collapse spacing) (Document.layout_ofText text))

/--
Rendered text can be read back and rendered under rules that allow as many line breaks or
fewer: this gives what these rules make of the document itself, without its indentation
and without blanks at the ends of lines.  A text that was read and rendered once stays as
it is when this is done again.
-/
theorem plain_ofText_plain :
    (∀ {tight loose : Spacing} {document : Document},
      tight.Within loose → document.FeedFree → document.Resolves →
      ∃ looseText tightText indent,
        plain loose document = .ok looseText ∧
        plain tight document = .ok tightText ∧
        IsIndent tightText indent ∧
        plain tight (Document.ofText looseText) = .ok (normalText indent tightText)) ∧
    ∀ spacing text, ∃ normal,
      plain spacing (Document.ofText text) = .ok normal ∧
      plain spacing (Document.ofText normal) = .ok normal := by
  constructor
  · intro tight loose document within free resolves
    have layoutFree : ∀ line ∈ document.layout, '\n' ∉ line :=
      fun line => Document.not_feed_of_mem_layout free
    have rendered (spacing : Spacing) :
        plain spacing document = .ok (collapse spacing document.layout) :=
      plain_of_layout spacing resolves rfl
    rcases collapse_dedent_collapse within layoutFree with ⟨indent, isIndent, reread⟩
    refine ⟨_, _, indent, rendered loose, rendered tight, isIndent, ?_⟩
    rw [plain_ofText, reread]
  · intro spacing text
    refine ⟨_, plain_ofText spacing text, ?_⟩
    rcases collapse_dedent_collapse (Spacing.Within.refl spacing)
      (fun line => not_feed_of_mem_dedent) with ⟨indent, isIndent, reread⟩
    rw [plain_ofText, reread, normalText_collapse_dedent spacing text isIndent]

/-- An indented call with many blank lines, and blanks behind some of its lines. -/
def looseCall : Document :=
  [.fixed "  a [".toList, .newline, .newline, .newline, .newline, .fixed "    b  ".toList,
    .newline, .fixed " ".toList, .newline, .newline, .newline, .fixed "    c".toList, .newline,
    .newline, .newline, .fixed "  ]".toList, .newline]

/-- Rules that allow one line break more than the standard ones, wherever they stand. -/
def looseSpacing : Spacing :=
  { cap := 3, capAfterOpen := 2, capBeforeClose := 2,
    capAfterOpen_pos := Nat.two_pos, capBeforeClose_pos := Nat.two_pos }

/-- The text of `looseCall` under loose rules, rendered again under the standard ones. -/
theorem plain_looseCall :
    Spacing.standard.Within looseSpacing ∧ looseCall.FeedFree ∧ looseCall.Resolves ∧
    plain looseSpacing looseCall = .ok "  a [\n\n    b  \n\n\n    c\n\n  ]\n".toList ∧
    plain .standard looseCall = .ok "  a [\n    b  \n\n    c\n  ]\n".toList ∧
    plain .standard (Document.ofText "  a [\n\n    b  \n\n\n    c\n\n  ]\n".toList) =
      .ok "a [\n  b\n\n  c\n]\n".toList := by
  have within : Spacing.standard.Within looseSpacing :=
    ⟨by decide, by decide, by decide, fun keeps => keeps⟩
  have free : looseCall.FeedFree := by decide +kernel
  have resolves : looseCall.Resolves := by decide +kernel
  have looseText :
      plain looseSpacing looseCall = .ok "  a [\n\n    b  \n\n\n    c\n\n  ]\n".toList :=
    plain_of_layAll resolves (by decide +kernel)
  have tightText :
      plain .standard looseCall = .ok "  a [\n    b  \n\n    c\n  ]\n".toList :=
    plain_of_layAll resolves (by decide +kernel)
  rcases plain_ofText_plain.1 within free resolves with
    ⟨_, _, indent, looseGiven, tightGiven, isIndent, reread⟩
  cases looseGiven.symm.trans looseText
  cases tightGiven.symm.trans tightText
  have width : indent = 2 := isIndent.unique (isIndent_minIndent _)
  refine ⟨within, free, resolves, looseText, tightText, ?_⟩
  rw [reread, width]
  exact congrArg Except.ok (by decide +kernel)

end Render

end Splice
