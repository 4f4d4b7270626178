import Splice.Number.Notation
import Splice.Text.Blank

namespace Splice

/-!
# Numbers are written on one line

The decimal notation of an integer or a floating-point number holds digits, signs,
a point and letters.  So it is never empty and no blank is in it, in particular
nothing that breaks a line.
-/

/-- No character of a text is blank. -/
def Text.BlankFree (t : Text) : Prop :=
  ∀ c ∈ t, isBlank c = false

instance (t : Text) : Decidable t.BlankFree :=
  List.decidableBAll (fun c => Text.isBlank c = false) t

namespace Text

variable {first second : Text}

theorem blankFree_append_iff :
    BlankFree (first ++ second) ↔ BlankFree first ∧ BlankFree second := by
  simp [BlankFree, or_imp, forall_and]

theorem blankFree_cons_iff
    {c : Char} :
    BlankFree (c :: first) ↔ isBlank c = false ∧ BlankFree first := by
  simp [BlankFree]

theorem blankFree_replicate
    (count : Nat)
    {c : Char}
    (solid : isBlank c = false) :
    BlankFree (List.replicate count c) := by
  intro d member
  rw [List.eq_of_mem_replicate member]
  exact solid

theorem BlankFree.not_feed
    (free : BlankFree first) :
    '\n' ∉ first := by
  intro feed
  exact absurd (free _ feed) (by decide)

end Text

open Text

theorem isBlank_of_isDigit
    {c : Char}
    (digit : c.isDigit = true) :
    isBlank c = false := by
  have bounds : 48 ≤ c.toNat ∧ c.toNat ≤ 57 := by
    simpa [Char.isDigit, UInt32.le_iff_toNat_le] using digit
  simp only [isBlank, Bool.or_eq_false_iff, Bool.and_eq_false_iff, decide_eq_false_iff_not,
    beq_eq_false_iff_ne]
  omega

theorem blankFree_natText (n : Nat) : BlankFree (natText n) := by
  intro c member
  exact isBlank_of_isDigit (Nat.isDigit_of_mem_toDigits (by decide) (by decide) member)

/-- An integer is written without blanks. -/
theorem blankFree_intText (n : Int) : BlankFree (intText n) := by
  cases n with
  | ofNat n => exact blankFree_natText n
  | negSucc n => exact blankFree_cons_iff.mpr ⟨by decide, blankFree_natText (n + 1)⟩

theorem intText_ne_nil (n : Int) : intText n ≠ [] := by
  cases n with
  | ofNat n => exact Nat.toDigits_ne_nil
  | negSucc n => exact List.cons_ne_nil _ _

theorem blankFree_zeroPadded
    (width n : Nat) :
    BlankFree (zeroPadded width n) :=
  blankFree_append_iff.mpr ⟨blankFree_replicate _ (by decide), blankFree_natText n⟩

namespace Double

theorem blankFree_exponentText (power : Int) : BlankFree (exponentText power) := by
  refine blankFree_cons_iff.mpr ⟨?_, blankFree_zeroPadded 2 _⟩
  split <;> decide

/-- Digits free of blanks stay so with their point and exponent. -/
theorem blankFree_layoutDigits
    {digits : Text}
    (free : BlankFree digits)
    (power : Int) :
    BlankFree (layoutDigits digits power) := by
  have front (count : Nat) : BlankFree (digits.take count) :=
    fun c member => free c (List.mem_of_mem_take member)
  have back (count : Nat) : BlankFree (digits.drop count) :=
    fun c member => free c (List.mem_of_mem_drop member)
  have zeros (count : Nat) : BlankFree (List.replicate count '0') :=
    blankFree_replicate count (by decide)
  have zero : BlankFree ['0'] := by decide
  unfold layoutDigits
  split
  · split
    · have point : BlankFree "0.".toList := by decide
      simp only [blankFree_append_iff]
      exact ⟨⟨point, zeros _⟩, free⟩
    · dsimp only
      simp only [blankFree_append_iff, blankFree_cons_iff]
      refine ⟨⟨front _, zeros _⟩, by decide, ?_⟩
      split
      · exact zero
      · exact back _
  · rw [blankFree_append_iff, blankFree_cons_iff]
    refine ⟨?_, by decide, blankFree_exponentText power⟩
    cases digits with
    | nil => exact free
    | cons first rest =>
        cases rest with
        | nil => exact free
        | cons second more =>
            simp only [blankFree_cons_iff] at free ⊢
            exact ⟨free.1, by decide, free.2⟩

theorem layoutDigits_ne_nil
    (digits : Text)
    (power : Int) :
    layoutDigits digits power ≠ [] := by
  unfold layoutDigits
  split
  · split <;> simp
  · simp

/-- What stands behind the sign of a finite number. -/
def unsignedText (mantissa : Nat) (exponent : Int) : Text :=
  if mantissa = 0 then "0.0".toList
  else
    let decimal := (shortest mantissa exponent).stripZeros
    let digits := natText decimal.digits
    layoutDigits digits (decimal.power + digits.length - 1)

/-- A finite number is written as its magnitude, with a sign when it is negative. -/
theorem text_finite
    (negative : Bool)
    (mantissa : Nat)
    (exponent : Int) :
    (finite negative mantissa exponent).text =
      if negative then '-' :: unsignedText mantissa exponent
      else unsignedText mantissa exponent :=
  rfl

theorem blankFree_unsignedText
    (mantissa : Nat)
    (exponent : Int) :
    BlankFree (unsignedText mantissa exponent) := by
  unfold unsignedText
  split
  · decide
  · exact blankFree_layoutDigits (blankFree_natText _) _

theorem unsignedText_ne_nil
    (mantissa : Nat)
    (exponent : Int) :
    unsignedText mantissa exponent ≠ [] := by
  unfold unsignedText
  split
  · decide
  · exact layoutDigits_ne_nil _ _

/-- A floating-point number is written without blanks. -/
theorem blankFree_text (x : Double) : BlankFree x.text := by
  cases x with
  | nan => decide
  | infinite negative => cases negative <;> decide
  | finite negative mantissa exponent =>
      rw [text_finite]
      split
      · exact blankFree_cons_iff.mpr ⟨by decide, blankFree_unsignedText mantissa exponent⟩
      · exact blankFree_unsignedText mantissa exponent

theorem text_ne_nil (x : Double) : x.text ≠ [] := by
  cases x with
  | nan => decide
  | infinite negative => cases negative <;> decide
  | finite negative mantissa exponent =>
      rw [text_finite]
      split
      · exact List.cons_ne_nil _ _
      · exact unsignedText_ne_nil mantissa exponent

end Double

end Splice
