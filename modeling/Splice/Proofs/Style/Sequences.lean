import Mathlib.Data.List.Infix
import Splice.Style.Escape

namespace Splice.Style

/-!
# Texts without their escape sequences

A stream that is no terminal gets a text without its escape sequences.  They are found in one
pass, which holds back what may still become a sequence.  `Stripped` says what is left without
such a pass: at each place a whole sequence is dropped or, when none begins there, a character
is kept (`stripped_iff`).  So a text stays as it is exactly when no part of it is a sequence
(`Stripped.eq_self_iff`).
-/

/-- A whole escape sequence: escape, bracket, parameters and a letter. -/
def IsSequence (s : Text) : Prop :=
  ∃ parameters letter,
    (∀ c ∈ parameters, isParameter c = true) ∧ letter.isAlpha = true ∧
    s = escape :: '[' :: (parameters ++ [letter])

/-- No part of a text is an escape sequence. -/
def EscapeFree (t : Text) : Prop :=
  ∀ s, s <:+: t → ¬ IsSequence s

/-- What is left of a text when its escape sequences are dropped, the first of them first. -/
inductive Stripped : Text → Text → Prop where
  | nil : Stripped [] []
  | sequence {s rest left : Text}
      (isSequence : IsSequence s)
      (others : Stripped rest left) :
      Stripped (s ++ rest) left
  | char {c : Char} {rest left : Text}
      (noSequence : ∀ s, s <+: c :: rest → ¬ IsSequence s)
      (others : Stripped rest left) :
      Stripped (c :: rest) (c :: left)

section

variable {c letter : Char} {parameters reversed rest s t left : Text}

theorem isParameter_of_isAlpha
    (alpha : c.isAlpha = true) :
    isParameter c = false := by
  have above : 65 ≤ c.val.toNat := by
    rcases Bool.or_eq_true_iff.mp alpha with upper | lower
    · exact UInt32.le_iff_toNat_le.mp (of_decide_eq_true upper).1
    · have fromSmall : 'a'.val ≤ c.val := of_decide_eq_true (Bool.and_eq_true_iff.mp lower).1
      have high : 97 ≤ c.val.toNat := UInt32.le_iff_toNat_le.mp fromSmall
      omega
  simp only [isParameter, Bool.or_eq_false_iff, Bool.and_eq_false_iff, beq_eq_false_iff_ne, ne_eq,
    decide_eq_false_iff_not, Char.le_def, UInt32.le_iff_toNat_le, Char.ext_iff,
    ← UInt32.toNat_inj, Char.reduceVal, UInt32.reduceToNat]
  omega

theorem ne_escape_of_isParameter
    (parameter : isParameter c = true) :
    c ≠ escape := by
  rintro rfl
  cases parameter

/-- A character other than an escape is kept. -/
theorem withoutEscapes_cons
    (plain : c ≠ escape)
    (rest : Text) :
    withoutEscapes (c :: rest) = c :: withoutEscapes rest := by
  simp only [withoutEscapes, withoutEscapesAfter, plain, ↓reduceIte, Pending.source,
    List.nil_append]

theorem withoutEscapesAfter_parameters
    (allOf : ∀ c ∈ parameters, isParameter c = true)
    (alpha : letter.isAlpha = true)
    (reversed rest : Text) :
    withoutEscapesAfter (.parameters reversed) (parameters ++ letter :: rest) =
      withoutEscapes rest := by
  induction parameters generalizing reversed with
  | nil =>
      simp only [List.nil_append, withoutEscapesAfter, isParameter_of_isAlpha alpha,
        Bool.false_eq_true, alpha, ↓reduceIte, withoutEscapes]
  | cons c others inductionHypothesis =>
      rcases List.forall_mem_cons.mp allOf with ⟨parameter, othersAll⟩
      rw [List.cons_append, withoutEscapesAfter]
      simp only [parameter, ↓reduceIte, inductionHypothesis othersAll]

/-- A sequence is dropped. -/
theorem withoutEscapes_sequence
    (isSequence : IsSequence s)
    (rest : Text) :
    withoutEscapes (s ++ rest) = withoutEscapes rest := by
  rcases isSequence with ⟨parameters, letter, allOf, alpha, rfl⟩
  have shape :
      escape :: '[' :: (parameters ++ [letter]) ++ rest =
        escape :: '[' :: (parameters ++ letter :: rest) := by
    simp
  rw [shape]
  exact withoutEscapesAfter_parameters allOf alpha [] rest

/-- Parameters that are held back are kept when they turn out to belong to no sequence. -/
theorem withoutEscapesAfter_of_no_sequence
    (allOf : ∀ c ∈ reversed, isParameter c = true)
    (noSequence : ∀ s, s <+: escape :: '[' :: (reversed.reverse ++ t) → ¬ IsSequence s) :
    withoutEscapesAfter (.parameters reversed) t =
      escape :: '[' :: (reversed.reverse ++ withoutEscapes t) := by
  induction t generalizing reversed with
  | nil => rw [withoutEscapesAfter, withoutEscapes, withoutEscapesAfter]; simp [Pending.source]
  | cons c rest inductionHypothesis =>
      rw [withoutEscapesAfter]
      split
      · next parameter =>
          have grown : (c :: reversed).reverse ++ rest = reversed.reverse ++ c :: rest := by simp
          rw [inductionHypothesis (List.forall_mem_cons.mpr ⟨parameter, allOf⟩)
            (by rwa [grown]), withoutEscapes_cons (ne_escape_of_isParameter parameter)]
          simp
      · split
        · next alpha =>
            have isSequence : IsSequence (escape :: '[' :: (reversed.reverse ++ [c])) :=
              ⟨reversed.reverse, c, fun d member => allOf d (List.mem_reverse.mp member),
                alpha, rfl⟩
            exact (noSequence _ ⟨rest, by simp⟩ isSequence).elim
        · split
          · next isEscape =>
              rw [isEscape]
              rfl
          · next plain =>
              rw [withoutEscapes_cons plain]
              rfl

/-- A character at which no sequence begins is kept. -/
theorem withoutEscapes_char
    (noSequence : ∀ s, s <+: c :: rest → ¬ IsSequence s) :
    withoutEscapes (c :: rest) = c :: withoutEscapes rest := by
  by_cases isEscape : c = escape
  · subst isEscape
    cases rest with
    | nil => rfl
    | cons d more =>
        by_cases isBracket : d = '['
        · subst isBracket
          have plain : '[' ≠ escape := by decide
          rw [withoutEscapes_cons plain]
          exact withoutEscapesAfter_of_no_sequence (fun _ member => by cases member) noSequence
        · simp only [withoutEscapes, withoutEscapesAfter, isBracket, ↓reduceIte]
          split <;> rfl
  · exact withoutEscapes_cons isEscape rest

end

theorem IsSequence.ne_nil
    {s : Text}
    (isSequence : IsSequence s) :
    s ≠ [] := by
  rintro rfl
  rcases isSequence with ⟨_, _, _, _, impossible⟩
  cases impossible

theorem stripped_withoutEscapes
    (t : Text) :
    Stripped t (withoutEscapes t) := by
  by_cases begins : ∃ s, s <+: t ∧ IsSequence s
  · rcases begins with ⟨s, ⟨rest, rfl⟩, isSequence⟩
    rw [withoutEscapes_sequence isSequence]
    have shorter : rest.length < (s ++ rest).length := by
      have longer := List.length_pos_iff.mpr isSequence.ne_nil
      rw [List.length_append]
      omega
    exact .sequence isSequence (stripped_withoutEscapes rest)
  · have noSequence : ∀ s, s <+: t → ¬ IsSequence s := fun s isPrefix isSequence =>
      begins ⟨s, isPrefix, isSequence⟩
    cases t with
    | nil => exact .nil
    | cons c rest =>
        rw [withoutEscapes_char noSequence]
        exact .char noSequence (stripped_withoutEscapes rest)
  termination_by t.length

section

variable {t left : Text}

/-- What is left of a text is what the pass over it gives. -/
theorem stripped_iff : Stripped t left ↔ withoutEscapes t = left := by
  constructor
  · intro stripped
    induction stripped with
    | nil => rfl
    | sequence isSequence _ inductionHypothesis =>
        rw [withoutEscapes_sequence isSequence, inductionHypothesis]
    | char noSequence _ inductionHypothesis =>
        rw [withoutEscapes_char noSequence, inductionHypothesis]
  · rintro rfl
    exact stripped_withoutEscapes t

/-- Characters are dropped, and none is added, changed or moved. -/
theorem Stripped.sublist
    (stripped : Stripped t left) :
    left.Sublist t := by
  induction stripped with
  | nil => exact List.Sublist.refl []
  | sequence _ _ inductionHypothesis =>
      exact inductionHypothesis.trans (List.sublist_append_right _ _)
  | char _ _ inductionHypothesis => exact inductionHypothesis.cons_cons _

/-- A text is left as it is when no part of it is an escape sequence. -/
theorem Stripped.eq_self_iff
    (stripped : Stripped t left) :
    left = t ↔ EscapeFree t := by
  induction stripped with
  | nil =>
      refine iff_of_true rfl ?_
      rintro s isPart isSequence
      exact isSequence.ne_nil (List.infix_nil.mp isPart)
  | @sequence s rest left isSequence others _ =>
      refine iff_of_false ?_ fun free => free s (List.infix_append' [] s rest) isSequence
      intro same
      have shorter := others.sublist.length_le
      have longer := List.length_pos_iff.mpr isSequence.ne_nil
      rw [same, List.length_append] at shorter
      omega
  | char noSequence _ inductionHypothesis =>
      rw [List.cons_inj_right, inductionHypothesis]
      constructor
      · intro free s isPart
        rcases List.infix_cons_iff.mp isPart with begins | behind
        · exact noSequence s begins
        · exact free s behind
      · exact fun free s behind => free s (List.infix_cons_iff.mpr (.inr behind))

/-- A line feed belongs to no escape sequence. -/
theorem escapeFree_append_feed_iff : EscapeFree (t ++ ['\n']) ↔ EscapeFree t := by
  constructor
  · exact fun free s isPart => free s (isPart.trans (List.infix_append' [] t ['\n']))
  · intro free s isPart isSequence
    rcases List.infix_concat_iff.mp isPart with ends | inside
    · rcases isSequence with ⟨parameters, letter, _, alpha, rfl⟩
      rcases ends with ⟨front, shape⟩
      have regrouped : (front ++ escape :: '[' :: parameters) ++ [letter] = t ++ ['\n'] := by
        rw [← shape]
        simp
      cases List.append_inj_right' regrouped rfl
      cases alpha
    · exact free s inside isSequence

end

end Splice.Style
