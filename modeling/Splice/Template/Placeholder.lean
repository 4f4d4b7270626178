import Splice.Text.Basic

namespace Splice.Template

/-!
# Placeholders

A placeholder is a dollar sign and the longest run of ASCII letters, digits and
underscores behind it; that run, which may be empty, is its name.  A text is cut
into parts, each a placeholder or the text between two, and nothing is lost:
`source_parts` reads the parts back.
-/

/-- Whether a character may belong to a placeholder's name. -/
def isNameChar (c : Char) : Bool :=
  c.isAlphanum || c == '_'

/-- A stretch of literal text, which is not empty, or a placeholder. -/
inductive Part where
  | literal (text : Text)
  | placeholder (name : Text)
  deriving DecidableEq

namespace Part

/-- The text that a part was cut from. -/
def source : Part → Text
  | .literal text => text
  | .placeholder name => '$' :: name

/-- The name of a placeholder. -/
def name? : Part → Option Text
  | .literal _ => none
  | .placeholder name => some name

/-- Put literal text in front of some parts. -/
def literalBefore (text : Text) (parts : List Part) : List Part :=
  if text.isEmpty then parts else .literal text :: parts

/--
Put one character in front of some parts.  A dollar sign takes its name from
literal text that follows it; any other character joins that text.
-/
def consChar (c : Char) (parts : List Part) : List Part :=
  match parts with
  | .literal text :: rest =>
      if c = '$' then
        .placeholder (text.takeWhile isNameChar) ::
          literalBefore (text.dropWhile isNameChar) rest
      else
        .literal (c :: text) :: rest
  | _ =>
      if c = '$' then .placeholder [] :: parts else .literal [c] :: parts

/-- The text that several parts were cut from. -/
def sources (parts : List Part) : Text :=
  parts.flatMap source

end Part

/-- The parts of a text. -/
def parts : Text → List Part
  | [] => []
  | c :: rest => Part.consChar c (parts rest)

/-- The names of a text's placeholders, each at its first use. -/
def placeholders (template : Text) : List Text :=
  ((parts template).filterMap Part.name?).eraseDups

/-- Putting a character in front puts it in front of the source. -/
theorem Part.sources_consChar
    (c : Char)
    (parts : List Part) :
    Part.sources (Part.consChar c parts) = c :: Part.sources parts := by
  unfold Part.consChar Part.sources
  split
  · next text rest =>
      by_cases dollar : c = '$'
      · subst dollar
        by_cases bare : (text.dropWhile isNameChar).isEmpty
        · have whole := List.takeWhile_append_dropWhile (p := isNameChar) (l := text)
          rw [List.isEmpty_iff.mp bare, List.append_nil] at whole
          simp [Part.literalBefore, bare, Part.source, whole]
        · simp [Part.literalBefore, bare, Part.source,
            ← List.append_assoc, List.takeWhile_append_dropWhile]
      · simp [dollar, Part.source]
  · by_cases dollar : c = '$' <;> simp [dollar, Part.source]

/-- The parts of a text read back as the text. -/
theorem source_parts (t : Text) : Part.sources (parts t) = t := by
  induction t with
  | nil => rfl
  | cons c rest inductionHypothesis =>
      rw [parts, Part.sources_consChar, inductionHypothesis]

example : placeholders "$b $a $b $\n$$".toList = ["b".toList, "a".toList, []] := by decide +kernel

end Splice.Template
