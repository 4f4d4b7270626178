import Splice.Proofs.Number.Notation
import Splice.Proofs.Text.Lines
import Splice.Text.Digit

namespace Splice.Text

/-!
# Texts that look like numbers

A text looks like a number when it is all digits between its blanks.  It spells one when the
digits are decimal and no information separator stands among the blanks
(`decimal?_trimNumber_eq_some_iff`).  A text that looks like a number and spells none is
misread: `misread_iff` says what is wrong with it.
-/

/-- An information separator: blank, but not around a number. -/
def isSeparator (c : Char) : Bool :=
  0x1C ≤ c.toNat && c.toNat ≤ 0x1F

/-- A blank may stand around a number unless it is an information separator. -/
theorem isNumberBlank_eq_true_iff
    {c : Char} :
    isNumberBlank c = true ↔ isBlank c = true ∧ isSeparator c = false := by
  simp only [isNumberBlank, isSeparator, Bool.and_eq_true, Bool.not_eq_true']

section Digits

theorem solid_decimalZeros :
    ∀ row ∈ decimalZeros, ∀ k < 10, isBlank (Char.ofNat (row + k)) = false := by
  decide +kernel

theorem solid_lookalikeDigits :
    ∀ run ∈ lookalikeDigits, ∀ k < run.2 + 1 - run.1,
      isBlank (Char.ofNat (run.1 + k)) = false := by
  decide +kernel

/-- What holds of every character of a run holds of a character in the run. -/
theorem holds_in_run
    {p : Char → Bool}
    {value : Bool}
    {first size : Nat}
    (holds : ∀ k < size, p (Char.ofNat (first + k)) = value)
    {c : Char}
    (above : first ≤ c.toNat)
    (below : c.toNat < first + size) :
    p c = value := by
  have atPlace := holds (c.toNat - first) (by omega)
  rwa [Nat.add_sub_cancel' above, Char.ofNat_toNat] at atPlace

variable {c : Char}

/-- A character with the value of a digit is no blank. -/
theorem solid_of_digitValue
    (digit : (digitValue? c).isSome = true) :
    isBlank c = false := by
  rcases Option.isSome_iff_exists.mp digit with ⟨value, isValue⟩
  rcases Option.map_eq_some_iff.mp isValue with ⟨row, found, _⟩
  have inRow := List.find?_some found
  simp only [Bool.and_eq_true, decide_eq_true_eq] at inRow
  exact holds_in_run (solid_decimalZeros row (List.mem_of_find?_eq_some found)) inRow.1 inRow.2

theorem solid_of_isDigit
    (digit : isDigit c = true) :
    isBlank c = false := by
  rcases Bool.or_eq_true_iff.mp digit with decimal | lookalike
  · exact solid_of_digitValue decimal
  · rcases List.any_eq_true.mp lookalike with ⟨run, member, inRun⟩
    simp only [Bool.and_eq_true, decide_eq_true_eq] at inRun
    exact holds_in_run (solid_lookalikeDigits run member) inRun.1 (by omega)

theorem isDigit_of_digitValue
    (digit : (digitValue? c).isSome = true) :
    isDigit c = true := by
  simp only [isDigit, digit, Bool.true_or]

end Digits

/-- A run of decimal digits. -/
def IsDecimal (t : Text) : Prop :=
  t ≠ [] ∧ ∀ c ∈ t, (digitValue? c).isSome = true

section Decimal

variable {t : Text}

/-- A decimal number holds no blank. -/
theorem IsDecimal.blankFree
    (decimal : IsDecimal t) :
    BlankFree t :=
  fun c member => solid_of_digitValue (decimal.2 c member)

/-- A run behind other digits is read exactly when all of it are decimal digits. -/
theorem exists_decimalFrom_iff
    (front : Nat) :
    (∃ n, decimalFrom? front t = some n) ↔ ∀ c ∈ t, (digitValue? c).isSome = true := by
  induction t generalizing front with
  | nil => simp [decimalFrom?]
  | cons c rest inductionHypothesis =>
      cases digit : digitValue? c with
      | none => simp [decimalFrom?, digit]
      | some value => simp [decimalFrom?, digit, inductionHypothesis]

/-- A text spells a number exactly when it is a run of decimal digits. -/
theorem exists_decimal_iff : (∃ n, decimal? t = some n) ↔ IsDecimal t := by
  cases t with
  | nil => simp [decimal?, IsDecimal]
  | cons c rest =>
      simp only [decimal?, List.isEmpty_cons, Bool.false_eq_true, ↓reduceIte,
        exists_decimalFrom_iff, IsDecimal, ne_eq, reduceCtorEq, not_false_eq_true, true_and]

/-- A text spells no number exactly when it is no run of decimal digits. -/
theorem decimal?_eq_none_iff : decimal? t = none ↔ ¬ IsDecimal t := by
  rw [← exists_decimal_iff, Option.eq_none_iff_forall_ne_some, not_exists]

end Decimal

section Trimming

variable {front core back : Text}

/-- Trimming leaves what stands between the blanks, if that is not empty and holds none. -/
theorem trim_between
    (frontBlank : allBlank front = true)
    (free : BlankFree core)
    (notEmpty : core ≠ [])
    (backBlank : allBlank back = true) :
    trim (front ++ core ++ back) = core := by
  rcases List.exists_cons_of_ne_nil notEmpty with ⟨c, rest, rfl⟩
  have cSolid : isBlank c = false := free c List.mem_cons_self
  have ends : ∀ d, (c :: rest).getLast? = some d → isBlank d = false :=
    fun d last => free d (List.mem_of_getLast? last)
  have solid : allBlank (c :: rest) = false := by simp [allBlank, cSolid]
  rw [trim, trimRight_append_blank _ backBlank, trimRight_append _ solid,
    trimRight_eq_self ends, trimLeft_solid frontBlank cSolid]

/-- Trimming drops nothing but blanks. -/
theorem exists_trim
    (t : Text) :
    ∃ front back,
      t = front ++ trim t ++ back ∧ allBlank front = true ∧ allBlank back = true := by
  rcases exists_trimRight t with ⟨back, shape, backBlank⟩
  refine ⟨(trimRight t).takeWhile isBlank, back, ?_, ?_, backBlank⟩
  · rw [trim, trimLeft, List.takeWhile_append_dropWhile]
    exact shape
  · exact List.all_takeWhile

/-- Trimming a number leaves what stands between its blanks, if that holds none. -/
theorem trimNumber_between
    (frontBlank : ∀ c ∈ front, isNumberBlank c = true)
    (free : BlankFree core)
    (backBlank : ∀ c ∈ back, isNumberBlank c = true)
    (notEmpty : core ≠ []) :
    trimNumber (front ++ core ++ back) = core := by
  have solid {c : Char} (member : c ∈ core) : isNumberBlank c = false := by
    simp only [isNumberBlank, free c member, Bool.false_and]
  have keeps {t : Text} {c : Char} (begins : ∃ rest, t = c :: rest) (member : c ∈ core) :
      t.dropWhile isNumberBlank = t := by
    rcases begins with ⟨rest, rfl⟩
    simp only [List.dropWhile_cons, solid member, Bool.false_eq_true, ↓reduceIte]
  rcases List.exists_cons_of_ne_nil notEmpty with ⟨first, others, shape⟩
  have reversedNotEmpty : core.reverse ≠ [] := List.reverse_ne_nil_iff.mpr notEmpty
  rcases List.exists_cons_of_ne_nil reversedNotEmpty with ⟨last, before, reversedShape⟩
  have firstMember : first ∈ core := shape ▸ List.mem_cons_self
  have lastMember : last ∈ core := by
    rw [← List.mem_reverse, reversedShape]
    exact List.mem_cons_self
  have frontDropped : (front ++ core ++ back).dropWhile isNumberBlank = core ++ back := by
    rw [List.append_assoc, List.dropWhile_append_of_pos frontBlank]
    exact keeps ⟨others ++ back, by rw [shape]; rfl⟩ firstMember
  have backDropped :
      (core ++ back).reverse.dropWhile isNumberBlank = core.reverse := by
    have allOf : ∀ c ∈ back.reverse, isNumberBlank c = true :=
      fun c member => backBlank c (List.mem_reverse.mp member)
    rw [List.reverse_append, List.dropWhile_append_of_pos allOf]
    exact keeps ⟨before, reversedShape⟩ lastMember
  rw [trimNumber, frontDropped, backDropped, List.reverse_reverse]

/-- Trimming a number drops nothing but blanks that may stand around it. -/
theorem exists_trimNumber
    (t : Text) :
    ∃ front back,
      t = front ++ trimNumber t ++ back ∧
      (∀ c ∈ front, isNumberBlank c = true) ∧ ∀ c ∈ back, isNumberBlank c = true := by
  let behind := t.dropWhile isNumberBlank
  refine ⟨t.takeWhile isNumberBlank, (behind.reverse.takeWhile isNumberBlank).reverse, ?_, ?_, ?_⟩
  · have shape : trimNumber t ++ (behind.reverse.takeWhile isNumberBlank).reverse = behind := by
      rw [trimNumber, ← List.reverse_append, List.takeWhile_append_dropWhile,
        List.reverse_reverse]
    rw [List.append_assoc, shape, List.takeWhile_append_dropWhile]
  · exact List.all_eq_true.mp List.all_takeWhile
  · intro c member
    exact List.all_eq_true.mp List.all_takeWhile c (List.mem_reverse.mp member)

end Trimming

/-- No information separator is in a text. -/
def SeparatorFree (t : Text) : Prop :=
  ∀ c ∈ t, isSeparator c = false

section

variable {t : Text}

/-- A decimal number holds no information separator. -/
theorem IsDecimal.separatorFree
    (decimal : IsDecimal t) :
    SeparatorFree t := by
  intro c member
  have solid := decimal.blankFree c member
  cases separates : isSeparator c with
  | false => rfl
  | true =>
      simp only [isSeparator, Bool.and_eq_true, decide_eq_true_eq] at separates
      simp only [isBlank, Bool.or_eq_false_iff, Bool.and_eq_false_iff,
        decide_eq_false_iff_not] at solid
      omega

/-- Where a number is left, both ways of trimming leave it, and no separator is dropped. -/
theorem trim_eq_of_isDecimal
    (decimal : IsDecimal (trimNumber t)) :
    trim t = trimNumber t ∧ SeparatorFree t := by
  rcases exists_trimNumber t with ⟨front, back, shape, frontBlank, backBlank⟩
  have blank {part : Text} (allOf : ∀ c ∈ part, isNumberBlank c = true) :
      allBlank part = true :=
    List.all_eq_true.mpr fun c member => (isNumberBlank_eq_true_iff.mp (allOf c member)).1
  have same : trim (front ++ trimNumber t ++ back) = trimNumber t :=
    trim_between (blank frontBlank) decimal.blankFree decimal.1 (blank backBlank)
  rw [← shape] at same
  refine ⟨same, ?_⟩
  intro c member
  rw [shape, List.mem_append, List.mem_append] at member
  rcases member with (inFront | inCore) | inBack
  · exact (isNumberBlank_eq_true_iff.mp (frontBlank c inFront)).2
  · exact decimal.separatorFree c inCore
  · exact (isNumberBlank_eq_true_iff.mp (backBlank c inBack)).2

/-- Around a decimal number both ways of trimming do the same, if no separator stands there. -/
theorem trimNumber_eq_of_isDecimal
    (decimal : IsDecimal (trim t))
    (free : SeparatorFree t) :
    trimNumber t = trim t := by
  rcases exists_trim t with ⟨front, back, shape, frontBlank, backBlank⟩
  have numberBlank {part : Text} (allOf : allBlank part = true) (inside : ∀ c ∈ part, c ∈ t) :
      ∀ c ∈ part, isNumberBlank c = true :=
    fun c member => isNumberBlank_eq_true_iff.mpr
      ⟨List.all_eq_true.mp allOf c member, free c (inside c member)⟩
  have frontInside : ∀ c ∈ front, c ∈ t := fun c member => by
    rw [shape]
    exact List.mem_append_left _ (List.mem_append_left _ member)
  have backInside : ∀ c ∈ back, c ∈ t := fun c member => by
    rw [shape]
    exact List.mem_append_right _ member
  have same : trimNumber (front ++ trim t ++ back) = trim t :=
    trimNumber_between (numberBlank frontBlank frontInside) decimal.blankFree
      (numberBlank backBlank backInside) decimal.1
  rwa [← shape] at same

/-- A trimmed text is a decimal number with and without regard to separators, if it holds none. -/
theorem isDecimal_trimNumber_iff :
    IsDecimal (trimNumber t) ↔ IsDecimal (trim t) ∧ SeparatorFree t := by
  constructor
  · intro decimal
    rcases trim_eq_of_isDecimal decimal with ⟨same, free⟩
    exact ⟨same.symm ▸ decimal, free⟩
  · rintro ⟨decimal, free⟩
    rw [trimNumber_eq_of_isDecimal decimal free]
    exact decimal

/--
A text spells a number when it is a run of decimal digits between its blanks and holds no
information separator.
-/
theorem decimal?_trimNumber_eq_some_iff
    {n : Nat} :
    decimal? (trimNumber t) = some n ↔ decimal? (trim t) = some n ∧ SeparatorFree t := by
  constructor
  · intro spells
    rcases trim_eq_of_isDecimal (exists_decimal_iff.mp ⟨n, spells⟩) with ⟨same, free⟩
    exact ⟨same.symm ▸ spells, free⟩
  · rintro ⟨spells, free⟩
    rw [trimNumber_eq_of_isDecimal (exists_decimal_iff.mp ⟨n, spells⟩) free]
    exact spells

theorem allDigits_of_isDecimal
    (decimal : IsDecimal t) :
    allDigits t = true := by
  simp only [allDigits, Bool.and_eq_true, Bool.not_eq_true', List.isEmpty_eq_false_iff]
  exact ⟨decimal.1, List.all_eq_true.mpr fun c member =>
    isDigit_of_digitValue (decimal.2 c member)⟩

/--
A text that looks like a number and is none: between its blanks it is all digits, but one of
them only looks like a digit, or an information separator stands among the blanks.
-/
structure Misread (t : Text) : Prop where
  digits : allDigits (trim t) = true
  flaw : (∃ c ∈ t, isDigit c = true ∧ digitValue? c = none) ∨ ∃ c ∈ t, isSeparator c = true

/-- A run of digits is decimal when no digit of the text only looks like one. -/
theorem isDecimal_trim_iff
    (digits : allDigits (trim t) = true) :
    IsDecimal (trim t) ↔ ∀ c ∈ t, isDigit c = true → digitValue? c ≠ none := by
  rcases exists_trim t with ⟨front, back, shape, frontBlank, backBlank⟩
  simp only [allDigits, Bool.and_eq_true, Bool.not_eq_true', List.isEmpty_eq_false_iff,
    List.all_eq_true] at digits
  constructor
  · intro decimal c member digit
    have notBlank {part : Text} (allOf : allBlank part = true) : c ∉ part := fun inPart => by
      have blank := List.all_eq_true.mp allOf c inPart
      rw [solid_of_isDigit digit] at blank
      cases blank
    rw [shape, List.mem_append, List.mem_append] at member
    rcases member with (inFront | inCore) | inBack
    · exact (notBlank frontBlank inFront).elim
    · exact Option.isSome_iff_ne_none.mp (decimal.2 c inCore)
    · exact (notBlank backBlank inBack).elim
  · intro genuine
    refine ⟨digits.1, fun c member => ?_⟩
    have inside : c ∈ t := by
      rw [shape]
      exact List.mem_append_left _ (List.mem_append_right _ member)
    exact Option.isSome_iff_ne_none.mpr (genuine c inside (digits.2 c member))

/-- A text is misread when it is all digits and yet spells no number. -/
theorem misread_iff :
    Misread t ↔ allDigits (trim t) = true ∧ decimal? (trimNumber t) = none := by
  have spellsNone (digits : allDigits (trim t) = true) :
      decimal? (trimNumber t) = none ↔
        ¬ ((∀ c ∈ t, isDigit c = true → digitValue? c ≠ none) ∧ SeparatorFree t) := by
    rw [decimal?_eq_none_iff, isDecimal_trimNumber_iff, isDecimal_trim_iff digits]
  constructor
  · rintro ⟨digits, flaw⟩
    refine ⟨digits, (spellsNone digits).mpr ?_⟩
    rintro ⟨genuine, free⟩
    rcases flaw with ⟨c, member, digit, noValue⟩ | ⟨c, member, separates⟩
    · exact genuine c member digit noValue
    · rw [free c member] at separates
      cases separates
  · rintro ⟨digits, none⟩
    refine ⟨digits, ?_⟩
    have flawed := (spellsNone digits).mp none
    simpa only [SeparatorFree, Classical.not_and_iff_not_or_not, Classical.not_forall,
      Classical.not_imp, Classical.not_not, Bool.not_eq_false, exists_prop] using flawed

end

section Integers

variable {part : Text}

/-- A decimal number holds only characters with a value. -/
theorem IsDecimal.not_mem
    (decimal : IsDecimal part)
    {c : Char}
    (noValue : digitValue? c = none) :
    c ∉ part := by
  intro member
  have hasValue := decimal.2 c member
  rw [noValue] at hasValue
  cases hasValue

/-- A decimal number spells an integer. -/
theorem IsDecimal.exists_integer
    (decimal : IsDecimal part) :
    ∃ n, integer? part = some n := by
  have trimmed : trimNumber part = part := by
    have noBlank : ∀ c ∈ ([] : Text), isNumberBlank c = true := fun _ member => by cases member
    have between := trimNumber_between noBlank decimal.blankFree noBlank decimal.1
    rwa [List.nil_append, List.append_nil] at between
  have whole : dropSeparators? part = some part := by
    have noUnderscore : ∀ c ∈ part, (c == '_') = false := fun c member =>
      beq_eq_false_iff_ne.mpr fun same => decimal.not_mem (c := '_') (by decide) (same ▸ member)
    simp only [dropSeparators?, splitWhere_of_no_stop noUnderscore, List.any_cons, List.any_nil,
      List.isEmpty_eq_false_iff.mpr decimal.1, Bool.or_self, Bool.false_eq_true, ↓reduceIte,
      List.flatten_cons, List.flatten_nil, List.append_nil]
  rcases exists_decimal_iff.mpr decimal with ⟨n, spells⟩
  unfold integer?
  rw [trimmed]
  split
  · exact (decimal.not_mem (c := '-') (by decide) List.mem_cons_self).elim
  · exact (decimal.not_mem (c := '+') (by decide) List.mem_cons_self).elim
  · refine ⟨n, ?_⟩
    simp only [whole, Option.bind_some, spells, Option.map_some, Int.ofNat_eq_natCast]

theorem integer?_nil : integer? [] = none := by
  decide

end Integers

end Splice.Text
