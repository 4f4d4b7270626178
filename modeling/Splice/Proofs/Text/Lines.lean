import Splice.Proofs.Template.Dedent
import Splice.Render.Sheet

namespace Splice

/-!
# Lines and the blanks at their ends

Joined lines are cut apart again where they were joined, as long as no line holds a line
feed.  Of a line that is not blank, the blanks in front and at the end can be removed
without a trace in what spacing rules look at: whether it is blank, and which brackets it
begins and ends with.
-/

namespace Text

theorem splitWhere_append
    {stop : Char → Bool}
    {part : Text}
    (noStop : ∀ c ∈ part, stop c = false)
    {c : Char}
    (stops : stop c = true)
    (rest : Text) :
    splitWhere stop (part ++ c :: rest) = part :: splitWhere stop rest := by
  induction part with
  | nil => simp [splitWhere, stops]
  | cons d more inductionHypothesis =>
      have head := noStop d (by simp)
      have tail := inductionHypothesis fun e member => noStop e (by simp [member])
      simp [splitWhere, head, tail]

theorem splitWhere_of_no_stop
    {stop : Char → Bool}
    {t : Text}
    (noStop : ∀ c ∈ t, stop c = false) :
    splitWhere stop t = [t] := by
  induction t with
  | nil => rfl
  | cons d more inductionHypothesis =>
      have head := noStop d (by simp)
      have tail := inductionHypothesis fun e member => noStop e (by simp [member])
      simp [splitWhere, head, tail]

/-- Cutting joined lines gives the lines back. -/
theorem lines_joinLines
    {rows : List Text}
    (noFeed : ∀ line ∈ rows, '\n' ∉ line)
    (notEmpty : rows ≠ []) :
    lines (joinLines rows) = rows := by
  have noStop {line : Text} (free : '\n' ∉ line) :
      ∀ c ∈ line, (c == '\n') = false := by
    intro c member
    rw [beq_eq_false_iff_ne]
    rintro rfl
    exact free member
  induction rows with
  | nil => exact (notEmpty rfl).elim
  | cons line rest inductionHypothesis =>
      have lineFree := noStop (noFeed line (by simp))
      cases rest with
      | nil => exact splitWhere_of_no_stop lineFree
      | cons next more =>
          have tail := inductionHypothesis
            (fun later member => noFeed later (by simp [member])) (by simp)
          unfold lines at tail ⊢
          rw [joinLines, splitWhere_append lineFree (by simp), tail]

/-- Nothing changes in front of the last character that is not blank. -/
theorem trimRight_append
    (front : Text)
    {back : Text}
    (solid : allBlank back = false) :
    trimRight (front ++ back) = front ++ trimRight back := by
  have remains : trimRight back ≠ [] := by
    intro nothing
    rw [trimRight_eq_nil_iff.mp nothing] at solid
    cases solid
  induction front with
  | nil => rfl
  | cons c rest inductionHypothesis =>
      rw [List.cons_append, trimRight, inductionHypothesis]
      cases left : rest ++ trimRight back with
      | nil => exact (remains (List.append_eq_nil_iff.mp left).2).elim
      | cons d more => simp [← left]

/-- A trimmed text lacks only blanks at its end. -/
theorem exists_trimRight
    (t : Text) :
    ∃ blanks, t = trimRight t ++ blanks ∧ allBlank blanks = true := by
  induction t with
  | nil => exact ⟨[], rfl, rfl⟩
  | cons c rest inductionHypothesis =>
      rcases inductionHypothesis with ⟨blanks, shape, allOf⟩
      rw [trimRight]
      cases kept : trimRight rest with
      | nil =>
          rw [kept] at shape
          cases blank : isBlank c with
          | true => exact ⟨c :: rest, rfl, by simpa [shape, allBlank, blank] using allOf⟩
          | false => exact ⟨rest, rfl, by rw [shape]; exact allOf⟩
      | cons d more =>
          rw [kept] at shape
          exact ⟨blanks, by rw [shape]; rfl, allOf⟩

/-- A trimmed text does not end with a blank. -/
theorem isBlank_of_getLast?_trimRight
    {t : Text}
    {c : Char}
    (ends : (trimRight t).getLast? = some c) :
    isBlank c = false := by
  induction t with
  | nil => cases ends
  | cons d rest inductionHypothesis =>
      rw [trimRight] at ends
      cases kept : trimRight rest with
      | nil =>
          rw [kept] at ends
          cases blank : isBlank d with
          | true => simp [blank] at ends
          | false =>
              simp only [blank, Bool.false_eq_true, ↓reduceIte, List.getLast?_singleton,
                Option.some.injEq] at ends
              rw [← ends]
              exact blank
      | cons e more =>
          rw [kept] at ends inductionHypothesis
          exact inductionHypothesis ends

theorem trimRight_append_blank
    (front : Text)
    {back : Text}
    (blank : allBlank back = true) :
    trimRight (front ++ back) = trimRight front := by
  induction front with
  | nil => exact trimRight_eq_nil_iff.mpr blank
  | cons c rest inductionHypothesis =>
      rw [List.cons_append, trimRight, inductionHypothesis, trimRight]

/-- Nothing is trimmed off a text that does not end with a blank. -/
theorem trimRight_eq_self
    {t : Text}
    (ends : ∀ c, t.getLast? = some c → isBlank c = false) :
    trimRight t = t := by
  rcases exists_trimRight t with ⟨blanks, shape, allOf⟩
  cases last : blanks.getLast? with
  | none =>
      rw [List.getLast?_eq_none_iff.mp last, List.append_nil] at shape
      exact shape.symm
  | some c =>
      have isLast : t.getLast? = some c := by
        rw [shape, List.getLast?_append, last]
        rfl
      have blank := List.all_eq_true.mp allOf c (List.mem_of_getLast? last)
      rw [ends c isLast] at blank
      cases blank

/-- A text that is not blank holds a first character that is not, behind its blanks. -/
theorem exists_solid
    {t : Text}
    (solid : allBlank t = false) :
    ∃ blanks c rest,
      t = blanks ++ c :: rest ∧ allBlank blanks = true ∧ isBlank c = false := by
  induction t with
  | nil => cases solid
  | cons d more inductionHypothesis =>
      cases blank : isBlank d with
      | false => exact ⟨[], d, more, rfl, rfl, blank⟩
      | true =>
          have moreSolid : allBlank more = false := by
            simpa [allBlank, blank] using solid
          rcases inductionHypothesis moreSolid with ⟨blanks, c, rest, rfl, allOf, cSolid⟩
          refine ⟨d :: blanks, c, rest, rfl, ?_, cSolid⟩
          simpa [allBlank, blank] using allOf

section

variable {blanks rest : Text} {c : Char}

theorem trimLeft_solid
    (allOf : allBlank blanks = true)
    (solid : isBlank c = false) :
    trimLeft (blanks ++ c :: rest) = c :: rest := by
  have dropped := List.all_eq_true.mp allOf
  unfold trimLeft
  rw [List.dropWhile_append_of_pos dropped, List.dropWhile_cons]
  simp [solid]

theorem leadingBlanks_solid
    (allOf : allBlank blanks = true)
    (solid : isBlank c = false) :
    leadingBlanks (blanks ++ c :: rest) = blanks.length := by
  have taken := List.all_eq_true.mp allOf
  unfold leadingBlanks
  rw [List.takeWhile_append_of_pos taken, List.takeWhile_cons]
  simp [solid]

theorem allBlank_append_solid
    (solid : isBlank c = false) :
    allBlank (blanks ++ c :: rest) = false := by
  simp [allBlank, solid]

theorem trimRight_solid
    (solid : isBlank c = false) :
    trimRight (c :: rest) = c :: trimRight rest := by
  rw [trimRight]
  cases trimRight rest <;> simp [solid]

end

end Text

namespace Template

open Text

/-- A line that is not blank loses blanks in front and at its end. -/
theorem normalLine_solid
    {blanks rest : Text}
    {c : Char}
    {indent : Nat}
    (solid : isBlank c = false)
    (within : indent ≤ blanks.length) :
    normalLine indent (blanks ++ c :: rest) = blanks.drop indent ++ trimRight (c :: rest) := by
  have restSolid : allBlank (c :: rest) = false := by simp [allBlank, solid]
  rw [normalLine, allBlank_append_solid solid, List.drop_append_of_le_length within]
  simp only [Bool.false_eq_true, ↓reduceIte]
  exact trimRight_append _ restSolid

/-- What is left of a line that is not blank when at most its leading blanks are removed. -/
structure Pared (line : Text) (indent : Nat) (left : Text) : Prop where
  solid : allBlank left = false
  leading : leadingBlanks left = leadingBlanks line - indent
  begins : (trimLeft left).head? = (trimLeft line).head?
  ends : (trimRight left).getLast? = (trimRight line).getLast?
  trimmed : trimRight left = left

theorem pared_normalLine
    {line : Text}
    {indent : Nat}
    (solid : allBlank line = false)
    (within : indent ≤ leadingBlanks line) :
    Pared line indent (normalLine indent line) := by
  rcases exists_solid solid with ⟨blanks, c, rest, rfl, allOf, cSolid⟩
  rw [leadingBlanks_solid allOf cSolid] at within
  have restSolid : allBlank (c :: rest) = false := by simp [allBlank, cSolid]
  have shape : normalLine indent (blanks ++ c :: rest) =
      blanks.drop indent ++ c :: trimRight rest := by
    rw [normalLine_solid cSolid within, trimRight_solid cSolid]
  have leftBlank := allBlank_drop allOf indent
  have again : trimRight (c :: trimRight rest) = c :: trimRight rest := by
    rw [trimRight_solid cSolid, trimRight_trimRight]
  have trimmedSolid : allBlank (c :: trimRight rest) = false := by simp [allBlank, cSolid]
  rw [shape]
  constructor
  case solid => exact allBlank_append_solid cSolid
  case leading =>
    rw [leadingBlanks_solid leftBlank cSolid, leadingBlanks_solid allOf cSolid,
      List.length_drop]
  case begins =>
    rw [trimLeft_solid leftBlank cSolid, trimLeft_solid allOf cSolid]
    rfl
  case ends =>
    rw [trimRight_append _ trimmedSolid, again, trimRight_append _ restSolid,
      trimRight_solid cSolid, List.getLast?_append, List.getLast?_append,
      List.getLast?_eq_some_getLast (List.cons_ne_nil c (trimRight rest))]
    rfl
  case trimmed => rw [trimRight_append _ trimmedSolid, again]

theorem normalLine_of_blank
    {line : Text}
    (indent : Nat)
    (blank : allBlank line = true) :
    normalLine indent line = [] := by
  simp [normalLine, blank]

/-- What does not see blanks at the ends of a text does not see what a line loses. -/
theorem apply_normalLine
    {α : Type}
    {f : Text → α}
    (before : ∀ {blanks} text, allBlank blanks = true → f (blanks ++ text) = f text)
    (behind : ∀ text {blanks}, allBlank blanks = true → f (text ++ blanks) = f text)
    {line : Text}
    {indent : Nat}
    (within : allBlank line = false → indent ≤ leadingBlanks line) :
    f (normalLine indent line) = f line := by
  cases blank : allBlank line with
  | true =>
      have all := before [] blank
      rw [List.append_nil] at all
      rw [normalLine_of_blank indent blank, all]
  | false =>
      have inside := within blank
      rcases exists_solid blank with ⟨blanks, c, rest, rfl, allOf, solid⟩
      rcases exists_trimRight (c :: rest) with ⟨trimmed, shape, trimmedBlank⟩
      rw [leadingBlanks_solid allOf solid] at inside
      rw [normalLine_solid solid inside, before _ (allBlank_drop allOf indent), before _ allOf,
        ← behind (trimRight (c :: rest)) trimmedBlank, ← shape]

namespace Pared

open Render

variable {line left : Text} {indent : Nat}

theorem opensBracket_eq
    (pared : Pared line indent left) :
    opensBracket left = opensBracket line := by
  unfold opensBracket
  rw [pared.ends]

theorem closesBracket_eq
    (pared : Pared line indent left) :
    closesBracket left = closesBracket line := by
  have same := pared.begins
  unfold closesBracket
  cases leftText : trimLeft left with
  | nil =>
      have lineText : trimLeft line = [] := by simpa [leftText] using same.symm
      rw [lineText]
  | cons c rest =>
      rw [leftText] at same
      rcases List.head?_eq_some_iff.mp same.symm with ⟨lineRest, lineText⟩
      rw [lineText]

end Pared

end Template

end Splice
