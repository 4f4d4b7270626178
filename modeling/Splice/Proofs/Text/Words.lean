import Splice.Proofs.Text.Numerals
import Splice.Text.Lowercase

namespace Splice.Text

/-!
# Words of a text

A text is cut into parts at its stops, and into words at its blanks.  Blanks at the ends make
no words, so trimming leaves the words of a text (`words_trim`), and neither cutting nor lower
case brings a blank into a word.
-/

section Lowering

theorem solid_capitalRuns :
    ∀ run ∈ capitalRuns.toList, ∀ k < run.last + 1 - run.first,
      isBlank (Char.ofNat (((run.first + k : Nat) : Int) + run.distance).toNat) = false := by
  decide +kernel

theorem solid_lowerChar
    {c : Char}
    (solid : isBlank c = false) :
    isBlank (lowerChar c) = false := by
  unfold lowerChar
  dsimp only
  split
  · next run found =>
      have inRun := Array.find?_some found
      have member := Array.mem_toList_iff.mpr (Array.mem_of_find?_eq_some found)
      simp only [Bool.and_eq_true, decide_eq_true_eq] at inRun
      obtain ⟨⟨above, below⟩, _⟩ := inRun
      have atPlace := solid_capitalRuns run member (c.toNat - run.first) (by omega)
      rwa [Nat.add_sub_cancel' above] at atPlace
  · exact solid

theorem blankFree_lowerAfter
    {t : Text}
    (free : BlankFree t)
    (inWord : Bool) :
    BlankFree (lowerAfter inWord t) := by
  induction t generalizing inWord with
  | nil => exact free
  | cons c rest inductionHypothesis =>
      rcases blankFree_cons_iff.mp free with ⟨solid, restFree⟩
      rw [lowerAfter, blankFree_append_iff]
      refine ⟨?_, inductionHypothesis restFree _⟩
      split
      · decide
      · split
        · decide
        · exact blankFree_cons_iff.mpr ⟨solid_lowerChar solid, fun _ member => by cases member⟩

/-- A text without blanks has none in lower case. -/
theorem blankFree_lower
    {t : Text}
    (free : BlankFree t) :
    BlankFree (lower t) :=
  blankFree_lowerAfter free false

end Lowering

theorem blankFree_of_mem_words
    {t word : Text}
    (member : word ∈ words t) :
    BlankFree word :=
  fun _ inWord => not_stop_of_mem_splitWhere (List.mem_filter.mp member).1 inWord

section Cutting

variable {stop : Char → Bool} {t part next : Text} {others : List Text}

theorem eq_of_splitWhere_singleton
    (cut : splitWhere stop t = [part]) :
    t = part := by
  induction t generalizing part with
  | nil => exact List.singleton_inj.mp cut
  | cons c rest inductionHypothesis =>
      rw [splitWhere] at cut
      split at cut
      · exact absurd (List.cons.inj cut).2 (splitWhere_ne_nil stop rest)
      · split at cut
        · next nothing => exact absurd nothing (splitWhere_ne_nil stop rest)
        · next first more restCut =>
            rcases List.cons.inj cut with ⟨rfl, rfl⟩
            rw [inductionHypothesis restCut]

/-- The first part of several ends at a character at which the text was cut. -/
theorem exists_of_splitWhere_cons
    (cut : splitWhere stop t = part :: next :: others) :
    ∃ c more, t = part ++ c :: more ∧ stop c = true ∧ splitWhere stop more = next :: others := by
  induction t generalizing part with
  | nil => cases cut
  | cons c rest inductionHypothesis =>
      rw [splitWhere] at cut
      split at cut
      · next stops =>
          rcases List.cons.inj cut with ⟨rfl, restCut⟩
          exact ⟨c, rest, rfl, stops, restCut⟩
      · split at cut
        · next nothing => exact absurd nothing (splitWhere_ne_nil stop rest)
        · next first more restCut =>
            rcases List.cons.inj cut with ⟨rfl, rfl⟩
            rcases inductionHypothesis restCut with ⟨d, behind, shape, stops, behindCut⟩
            exact ⟨d, behind, by rw [shape]; rfl, stops, behindCut⟩

theorem splitWhere_append_stop
    (t : Text)
    {c : Char}
    (stops : stop c = true) :
    splitWhere stop (t ++ [c]) = splitWhere stop t ++ [[]] := by
  induction t with
  | nil => simp only [List.nil_append, splitWhere, stops, ↓reduceIte, List.cons_append]
  | cons d rest inductionHypothesis =>
      rw [List.cons_append, splitWhere, inductionHypothesis, splitWhere]
      split
      · rfl
      · cases cut : splitWhere stop rest with
        | nil => exact absurd cut (splitWhere_ne_nil stop rest)
        | cons first more => rfl

theorem words_append_blank
    (t : Text)
    {blanks : Text}
    (allOf : allBlank blanks = true) :
    words (t ++ blanks) = words t := by
  induction blanks generalizing t with
  | nil => rw [List.append_nil]
  | cons c rest inductionHypothesis =>
      rw [allBlank, List.all_cons, Bool.and_eq_true] at allOf
      have shape : t ++ c :: rest = (t ++ [c]) ++ rest := by simp
      rw [shape, inductionHypothesis _ allOf.2, words, splitWhere_append_stop t allOf.1,
        List.filter_append]
      exact List.append_nil _

theorem words_blank_append
    (t : Text)
    {blanks : Text}
    (allOf : allBlank blanks = true) :
    words (blanks ++ t) = words t := by
  induction blanks with
  | nil => rfl
  | cons c rest inductionHypothesis =>
      rw [allBlank, List.all_cons, Bool.and_eq_true] at allOf
      rw [List.cons_append, words, splitWhere, if_pos allOf.1]
      exact inductionHypothesis allOf.2

/-- Trimming leaves the words of a text. -/
theorem words_trim (t : Text) : words (trim t) = words t := by
  rcases exists_trim t with ⟨front, back, shape, frontBlank, backBlank⟩
  have whole : words (front ++ trim t ++ back) = words (trim t) := by
    rw [words_append_blank _ backBlank, words_blank_append _ frontBlank]
  rw [← whole, ← shape]

end Cutting

end Splice.Text
