import Mathlib.Data.List.TakeWhile
import Splice.Proofs.Inversion
import Splice.Proofs.Template.Dedent
import Splice.Template.Piece

namespace Splice.Template

/-!
# Pieces are cut as far as they go

The pieces of a template read back as the dedented template, and there is one way
to cut it: literals are not empty and never meet, no literal holds a dollar sign
or a line feed, and a name is the longest run of name characters.  `Proper` says
this of a row of pieces; it is kept when one more character comes in front.
-/

namespace Piece

/-- The text that several pieces were cut from. -/
def sources (pieces : List Piece) : Text :=
  pieces.flatMap source

@[simp] theorem sources_nil : sources [] = [] :=
  rfl

@[simp] theorem sources_cons
    (piece : Piece)
    (rest : List Piece) :
    sources (piece :: rest) = piece.source ++ sources rest :=
  rfl

@[simp] theorem sources_append
    (first second : List Piece) :
    sources (first ++ second) = sources first ++ sources second := by
  simp [sources]

/-- Rows of pieces in which every literal and every name goes as far as it can. -/
inductive Proper (scan : Bool) : List Piece → Prop where
  | nil : Proper scan []
  | newline {rest : List Piece}
      (restProper : Proper scan rest) :
      Proper scan (.newline :: rest)
  | literal {text : Text} {rest : List Piece}
      (notEmpty : text ≠ [])
      (noFeed : '\n' ∉ text)
      (noDollar : scan = true → '$' ∉ text)
      (apart : ∀ other more, rest ≠ .part (.literal other) :: more)
      (restProper : Proper scan rest) :
      Proper scan (.part (.literal text) :: rest)
  | placeholder {name : Text} {rest : List Piece}
      (scanned : scan = true)
      (nameChars : ∀ c ∈ name, isNameChar c = true)
      (maximal : ∀ c more, sources rest = c :: more → isNameChar c = false)
      (restProper : Proper scan rest) :
      Proper scan (.part (.placeholder name) :: rest)

namespace Proper

variable {scan : Bool}

theorem of_append
    {before after : List Piece}
    (proper : Proper scan (before ++ after)) :
    Proper scan after := by
  induction before with
  | nil => exact proper
  | cons piece rest inductionHypothesis =>
      cases proper with
      | newline restProper => exact inductionHypothesis restProper
      | literal _ _ _ _ restProper => exact inductionHypothesis restProper
      | placeholder _ _ _ restProper => exact inductionHypothesis restProper

theorem drop
    {pieces : List Piece}
    (proper : Proper scan pieces)
    (index : Nat) :
    Proper scan (pieces.drop index) := by
  rw [← List.take_append_drop index pieces] at proper
  exact proper.of_append

theorem literal_of_mem
    {pieces : List Piece}
    (proper : Proper scan pieces)
    {text : Text}
    (member : .part (.literal text) ∈ pieces) :
    text ≠ [] ∧ '\n' ∉ text ∧ (scan = true → '$' ∉ text) := by
  obtain ⟨before, after, rfl⟩ := List.append_of_mem member
  cases proper.of_append with
  | literal notEmpty noFeed noDollar _ _ => exact ⟨notEmpty, noFeed, noDollar⟩

theorem use_of_getElem?
    {pieces : List Piece}
    (proper : Proper scan pieces)
    {index : Nat}
    {name : Text}
    (there : pieces[index]? = some (.part (.placeholder name))) :
    scan = true ∧ (∀ c ∈ name, isNameChar c = true) ∧
      ∀ c more, sources (pieces.drop (index + 1)) = c :: more → isNameChar c = false := by
  have rest := proper.drop index
  rw [drop_of_getElem? there] at rest
  cases rest with
  | placeholder scanned nameChars maximal _ => exact ⟨scanned, nameChars, maximal⟩

/-- Two literals never stand side by side in a proper row. -/
theorem apart_of_getElem?
    {pieces : List Piece}
    (proper : Proper scan pieces)
    {index : Nat}
    {first second : Text}
    (there : pieces[index]? = some (.part (.literal first)))
    (next : pieces[index + 1]? = some (.part (.literal second))) :
    False := by
  have rest := proper.drop index
  rw [drop_of_getElem? there, drop_of_getElem? next] at rest
  cases rest with
  | literal _ _ _ apart _ => exact apart second _ rfl

/-- A proper row that begins with no literal begins with no name character. -/
theorem not_nameChar_of_apart
    {pieces : List Piece}
    (apart : ∀ other more, pieces ≠ .part (.literal other) :: more)
    {c : Char}
    {more : Text}
    (begins : sources pieces = c :: more) :
    isNameChar c = false := by
  cases pieces with
  | nil => cases begins
  | cons piece rest =>
      cases piece with
      | newline =>
          cases begins
          decide
      | part cut =>
          cases cut with
          | literal text => exact (apart text rest rfl).elim
          | placeholder name =>
              cases begins
              decide

end Proper

end Piece

theorem not_nameChar_of_dropWhile
    {text more : Text}
    {c : Char}
    (begins : text.dropWhile isNameChar = c :: more) :
    isNameChar c = false := by
  have stops := List.head?_dropWhile_not isNameChar text
  simpa [begins] using stops

/-- A dollar sign in front of a literal takes its name from the literal. -/
theorem proper_dollar_literal
    {text : Text}
    {tail : List Piece}
    (proper : Piece.Proper true (.part (.literal text) :: tail)) :
    Piece.Proper true
      (.part (.placeholder (text.takeWhile isNameChar)) ::
        ((Part.literalBefore (text.dropWhile isNameChar) []).map .part ++ tail)) := by
  cases proper with
  | literal notEmpty noFeed noDollar apart tailProper =>
      have nameChars : ∀ c ∈ text.takeWhile isNameChar, isNameChar c = true :=
        fun _ => List.mem_takeWhile_imp
      have subset := (List.dropWhile_sublist isNameChar (l := text)).subset
      cases left : text.dropWhile isNameChar with
      | nil =>
          exact .placeholder rfl nameChars
            (fun _ _ => Piece.Proper.not_nameChar_of_apart apart) tailProper
      | cons d more =>
          rw [left] at subset
          have leftProper : Piece.Proper true (.part (.literal (d :: more)) :: tail) :=
            .literal (by simp) (fun feed => noFeed (subset feed))
              (fun scanned dollar => noDollar scanned (subset dollar)) apart tailProper
          refine .placeholder rfl nameChars ?_ leftProper
          intro c others begins
          cases begins
          exact not_nameChar_of_dropWhile left

/-- Parts with proper pieces behind them stay proper when a character comes in front. -/
theorem proper_consChar
    {parts : List Part}
    {tail : List Piece}
    {c : Char}
    (notFeed : c ≠ '\n')
    (proper : Piece.Proper true (parts.map .part ++ tail))
    (tailApart : ∀ other more, tail ≠ .part (.literal other) :: more) :
    Piece.Proper true ((Part.consChar c parts).map .part ++ tail) := by
  unfold Part.consChar
  split
  · next text rest =>
      by_cases dollar : c = '$'
      · have named := proper_dollar_literal proper
        simp only [dollar, ↓reduceIte, List.map_cons, List.cons_append]
        cases left : text.dropWhile isNameChar with
        | nil => simpa [left, Part.literalBefore] using named
        | cons d more => simpa [left, Part.literalBefore] using named
      · simp only [dollar, ↓reduceIte, List.map_cons, List.cons_append]
        cases proper with
        | literal _ noFeed noDollar apart restProper =>
            refine .literal (by simp) ?_ ?_ apart restProper
            · simp [noFeed, Ne.symm notFeed]
            · intro scanned
              simp [noDollar scanned, Ne.symm dollar]
  · next notLiteral =>
      have apart : ∀ other more,
          parts.map Piece.part ++ tail ≠ .part (.literal other) :: more := by
        intro other more same
        cases parts with
        | nil => exact tailApart other more same
        | cons first rest =>
            cases same
            exact notLiteral other rest rfl
      by_cases dollar : c = '$'
      · simp only [dollar, ↓reduceIte, List.map_cons, List.cons_append]
        exact .placeholder rfl (by simp)
          (fun _ _ => Piece.Proper.not_nameChar_of_apart apart) proper
      · simp only [dollar, ↓reduceIte, List.map_cons, List.cons_append]
        refine .literal (by simp) ?_ ?_ apart proper
        · simp [Ne.symm notFeed]
        · intro _
          simp [Ne.symm dollar]

/-- The parts of a line are proper in front of pieces that begin with no literal. -/
theorem proper_lineParts
    (scan : Bool)
    {line : Text}
    {tail : List Piece}
    (noFeed : '\n' ∉ line)
    (tailProper : Piece.Proper scan tail)
    (tailApart : ∀ other more, tail ≠ .part (.literal other) :: more) :
    Piece.Proper scan ((lineParts scan line).map .part ++ tail) := by
  cases scan with
  | false =>
      simp only [lineParts, Bool.false_eq_true, ↓reduceIte, Part.literalBefore]
      cases line with
      | nil => exact tailProper
      | cons c rest => exact .literal (by simp) noFeed (by simp) tailApart tailProper
  | true =>
      simp only [lineParts, ↓reduceIte]
      induction line with
      | nil => exact tailProper
      | cons c rest inductionHypothesis =>
          simp only [List.mem_cons, not_or] at noFeed
          exact proper_consChar (Ne.symm noFeed.1) (inductionHypothesis noFeed.2) tailApart

theorem proper_brokenPieces
    (scan : Bool)
    {lines : List Text}
    (noFeed : ∀ line ∈ lines, '\n' ∉ line) :
    Piece.Proper scan (brokenPieces scan lines) ∧
      ∀ other more, brokenPieces scan lines ≠ .part (.literal other) :: more := by
  induction lines with
  | nil => exact ⟨.nil, by simp [brokenPieces]⟩
  | cons line rest inductionHypothesis =>
      obtain ⟨restProper, restApart⟩ :=
        inductionHypothesis fun later member => noFeed later (by simp [member])
      refine ⟨.newline ?_, by simp [brokenPieces]⟩
      exact proper_lineParts scan (noFeed line (by simp)) restProper restApart

theorem sources_lineParts
    (scan : Bool)
    (line : Text) :
    Piece.sources ((lineParts scan line).map .part) = line := by
  have readBack : ∀ parts : List Part,
      Piece.sources (parts.map .part) = Part.sources parts := by
    intro parts
    simp [Piece.sources, Part.sources, List.flatMap_map, Piece.source]
  rw [readBack]
  cases scan with
  | true => exact source_parts line
  | false =>
      cases line with
      | nil => rfl
      | cons c rest => simp [lineParts, Part.literalBefore, Part.sources, Part.source]

theorem sources_brokenPieces
    (scan : Bool)
    (first : Text)
    (lines : List Text) :
    first ++ Piece.sources (brokenPieces scan lines) = Text.joinLines (first :: lines) := by
  induction lines generalizing first with
  | nil => simp [brokenPieces, Text.joinLines]
  | cons line rest inductionHypothesis =>
      rw [Text.joinLines, ← inductionHypothesis line]
      simp [brokenPieces, sources_lineParts, Piece.source]

/-- The pieces of a template read back as its dedented lines. -/
theorem sources_pieces
    (scan : Bool)
    (template : Text) :
    Piece.sources (pieces scan template) = Text.joinLines (dedent template) := by
  unfold pieces
  cases dedent template with
  | nil => rfl
  | cons first rest =>
      simp only [Piece.sources_append, sources_lineParts]
      exact sources_brokenPieces scan first rest

theorem mem_of_mem_dedentLine
    {indent : Nat}
    {line : Text}
    {c : Char}
    (member : c ∈ dedentLine indent line) :
    c ∈ line := by
  unfold dedentLine at member
  split at member
  · exact List.mem_of_mem_drop (Text.mem_of_mem_trimRight member)
  · exact Text.mem_of_mem_trimRight member

/-- The pieces of a template are proper. -/
theorem proper_pieces
    (scan : Bool)
    (template : Text) :
    Piece.Proper scan (pieces scan template) := by
  have noFeed : ∀ line ∈ dedent template, '\n' ∉ line := by
    intro line member feed
    obtain ⟨source, inTemplate, rfl⟩ := List.mem_map.mp member
    exact Text.not_feed_of_mem_lines inTemplate (mem_of_mem_dedentLine feed)
  unfold pieces
  split
  · exact .nil
  · next first rest lines =>
      rw [lines] at noFeed
      have restFree : ∀ line ∈ rest, '\n' ∉ line :=
        fun line member => noFeed line (by simp [member])
      obtain ⟨restProper, restApart⟩ := proper_brokenPieces scan restFree
      exact proper_lineParts scan (noFeed first (by simp)) restProper restApart

end Splice.Template
