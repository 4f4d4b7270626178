import Splice.Text.Basic

namespace Splice.Text

/-!
# Blank characters and trimming

A character is blank when Unicode counts it as white space, with the four
separators U+001C to U+001F besides.  Zero-width characters are not blank.
Trimming removes blanks at one end and `trimRight_eq_nil_iff` says that a text
vanishes exactly when it holds nothing else.
-/

/-- White space, as trimming, word splitting and blank lines see it. -/
def isBlank (c : Char) : Bool :=
  let n := c.toNat
  (9 ≤ n && n ≤ 13) || (0x1C ≤ n && n ≤ 0x20) || n == 0x85 || n == 0xA0 ||
    n == 0x1680 || (0x2000 ≤ n && n ≤ 0x200A) || n == 0x2028 || n == 0x2029 ||
    n == 0x202F || n == 0x205F || n == 0x3000

/-- A text is blank when it holds blank characters only. -/
def allBlank (t : Text) : Bool :=
  t.all isBlank

/-- Drop the blanks in front. -/
def trimLeft (t : Text) : Text :=
  t.dropWhile isBlank

/-- Drop the blanks at the end. -/
def trimRight : Text → Text
  | [] => []
  | c :: rest =>
      match trimRight rest with
      | [] => if isBlank c then [] else [c]
      | kept => c :: kept

/-- Drop the blanks at both ends. -/
def trim (t : Text) : Text :=
  trimLeft (trimRight t)

/-- How many blanks a text begins with. -/
def leadingBlanks (t : Text) : Nat :=
  (t.takeWhile isBlank).length

/-- The maximal runs of characters that are not blank, in order. -/
def words (t : Text) : List Text :=
  (splitWhere isBlank t).filter fun part => !part.isEmpty

/-- Nothing is left of a text exactly when all of it is blank. -/
theorem trimRight_eq_nil_iff
    {t : Text} :
    trimRight t = [] ↔ allBlank t = true := by
  induction t with
  | nil => simp [trimRight, allBlank]
  | cons c rest inductionHypothesis =>
      simp only [trimRight]
      cases kept : trimRight rest with
      | nil =>
          have restBlank := inductionHypothesis.mp kept
          unfold allBlank at restBlank ⊢
          by_cases blank : isBlank c <;> simp [blank, restBlank]
      | cons d more =>
          have restNotBlank : ¬ allBlank rest = true := by
            intro restBlank
            simp [inductionHypothesis.mpr restBlank] at kept
          unfold allBlank at restNotBlank ⊢
          simp [restNotBlank]

/-- A second trimming finds nothing more to drop. -/
theorem trimRight_trimRight
    (t : Text) :
    trimRight (trimRight t) = trimRight t := by
  induction t with
  | nil => rfl
  | cons c rest inductionHypothesis =>
      simp only [trimRight]
      cases kept : trimRight rest with
      | nil =>
          by_cases blank : isBlank c <;> simp [blank, trimRight]
      | cons d more =>
          rw [kept] at inductionHypothesis
          simp [trimRight] at inductionHypothesis ⊢
          simp [inductionHypothesis]

end Splice.Text
