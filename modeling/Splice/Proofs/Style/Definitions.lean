import Splice.Proofs.Text.Words
import Splice.Style.Definition

namespace Splice

/-!
# Where style definitions go wrong

The words of a definition are read from left to right, and reading stops at the first that
make no sense (`applyWords_eq_error_iff`).  All of them are faults of the definition, except
one: a mix of three colours may lack one of its components, as in `rgb(1,,2)`.  Such a mix
is hollow, and `Colour.read_eq_notInteger_iff` says that hollow mixes are the only
colours that fail over a number.
-/

namespace Colour

/-- A mix of three runs of decimal digits, one of which is empty. -/
def HollowMix (word : Text) : Prop :=
  ∃ red green blue,
    Text.lower word = "rgb(".toList ++ (red ++ ',' :: (green ++ ',' :: blue)) ++ [')'] ∧
    (∀ part ∈ [red, green, blue], ∀ c ∈ part, (Text.digitValue? c).isSome = true) ∧
    [] ∈ [red, green, blue]

/-- An argument stands between its beginning and a closing parenthesis at the end. -/
theorem argument?_eq_some_iff
    {start : String}
    (opens : start.toList.getLast? ≠ some ')')
    {word found : Text} :
    argument? start word = some found ↔ word = start.toList ++ found ++ [')'] := by
  have dropped (rest : Text) : (start.toList ++ rest).drop start.length = rest := by
    rw [← String.length_toList, List.drop_left]
  unfold argument?
  constructor
  · intro argument
    split at argument
    · next both =>
        simp only [Bool.and_eq_true, List.isPrefixOf_iff_prefix, beq_iff_eq] at both
        rcases both with ⟨⟨rest, rfl⟩, closes⟩
        rw [dropped, Option.some.injEq] at argument
        rcases List.eq_nil_or_concat rest with rfl | ⟨more, last, rfl⟩
        · exact (opens (by rwa [List.append_nil] at closes)).elim
        · rw [List.concat_eq_append] at closes argument ⊢
          rw [← List.append_assoc, List.getLast?_concat, Option.some.injEq] at closes
          rw [List.dropLast_concat] at argument
          rw [argument, closes, List.append_assoc]
    · cases argument
  · rintro rfl
    have begins : start.toList.isPrefixOf (start.toList ++ found ++ [')']) = true := by
      rw [List.isPrefixOf_iff_prefix, List.append_assoc]
      exact List.prefix_append _ _
    simp only [begins, List.getLast?_concat, BEq.rfl, Bool.and_self, ↓reduceIte]
    rw [List.append_assoc, dropped, List.dropLast_concat]

/-- The test for components, as a property: something, and all of it digits and commas. -/
theorem isComponents_iff
    {components : Text}
    (free : Text.BlankFree components) :
    isComponents components = true ↔
      components ≠ [] ∧ ∀ c ∈ components, (Text.digitValue? c).isSome = true ∨ c = ',' := by
  simp only [isComponents, Bool.and_eq_true, Bool.not_eq_true', List.isEmpty_eq_false_iff,
    List.all_eq_true, Bool.or_eq_true, beq_iff_eq]
  refine and_congr_right fun _ => forall_congr' fun c => forall_congr' fun member => ?_
  simp only [free c member, Bool.false_eq_true, or_false]

section

variable {word red green blue : Text}

/-- The parts of three components are these again. -/
theorem splitWhere_components
    (decimal : ∀ part ∈ [red, green, blue], ∀ c ∈ part, (Text.digitValue? c).isSome = true) :
    Text.splitWhere (· == ',') (red ++ ',' :: (green ++ ',' :: blue)) = [red, green, blue] := by
  have noComma {part : Text} (member : part ∈ [red, green, blue]) :
      ∀ c ∈ part, (c == ',') = false := by
    intro c inPart
    rw [beq_eq_false_iff_ne]
    rintro rfl
    exact absurd (decimal part member ',' inPart) (by decide)
  rw [Text.splitWhere_append (noComma (by simp)) (by decide),
    Text.splitWhere_append (noComma (by simp)) (by decide),
    Text.splitWhere_of_no_stop (noComma (by simp))]

/-- Components that fail over a number are three, of which one is empty. -/
theorem ofComponents_eq_notInteger_iff
    (decimal : ∀ part ∈ [red, green, blue], ∀ c ∈ part, (Text.digitValue? c).isSome = true)
    (word : Text)
    {part : Text} :
    ofComponents word (red ++ ',' :: (green ++ ',' :: blue)) = .error (.notInteger part) ↔
      part = [] ∧ [] ∈ [red, green, blue] := by
  have reads (part : Text) (member : part ∈ [red, green, blue]) :
      part = [] ∧ Text.integer? part = none ∨
        part ≠ [] ∧ ∃ n, Text.integer? part = some n := by
    by_cases isEmpty : part = []
    · exact .inl ⟨isEmpty, isEmpty ▸ Text.integer?_nil⟩
    · exact .inr ⟨isEmpty, Text.IsDecimal.exists_integer ⟨isEmpty, decimal part member⟩⟩
  have redReads := reads red (by simp)
  have greenReads := reads green (by simp)
  have blueReads := reads blue (by simp)
  unfold ofComponents
  rw [splitWhere_components decimal]
  dsimp only
  rcases redReads with ⟨rfl, noRed⟩ | ⟨redThere, r, isRed⟩
  · rw [noRed]
    simp [bind, Except.bind, eq_comm]
  · rw [isRed]
    rcases greenReads with ⟨rfl, noGreen⟩ | ⟨greenThere, g, isGreen⟩
    · rw [noGreen]
      simp [bind, Except.bind, eq_comm]
    · rw [isGreen]
      rcases blueReads with ⟨rfl, noBlue⟩ | ⟨blueThere, b, isBlue⟩
      · rw [noBlue]
        simp [bind, Except.bind, eq_comm]
      · rw [isBlue]
        have noneEmpty : [] ∉ [red, green, blue] := by
          simp [redThere.symm, greenThere.symm, blueThere.symm]
        simp only [bind, Except.bind, noneEmpty, and_false, iff_false]
        split <;> simp [pure, Except.pure]

/-- Three components are cut at two commas. -/
theorem components_of_splitWhere
    {components : Text}
    (cut : Text.splitWhere (· == ',') components = [red, green, blue]) :
    components = red ++ ',' :: (green ++ ',' :: blue) := by
  rcases Text.exists_of_splitWhere_cons cut with ⟨c, more, rfl, isComma, moreCut⟩
  rcases Text.exists_of_splitWhere_cons moreCut with ⟨d, rest, rfl, alsoComma, restCut⟩
  rw [beq_iff_eq] at isComma alsoComma
  rw [isComma, alsoComma, Text.eq_of_splitWhere_singleton restCut]

end

/-- A component that is no integer is one of three. -/
theorem exists_three_components
    {word components part : Text}
    (fails : ofComponents word components = .error (.notInteger part)) :
    ∃ red green blue, Text.splitWhere (· == ',') components = [red, green, blue] := by
  unfold ofComponents at fails
  dsimp only at fails
  split at fails
  · next red green blue cut => exact ⟨red, green, blue, cut⟩
  · cases fails

/-- The components of a mix that fails over a number, when the mix holds no blank. -/
theorem ofComponents_fails_iff
    (word : Text)
    {components part : Text}
    (free : Text.BlankFree components) :
    isComponents components = true ∧
        ofComponents word components = .error (.notInteger part) ↔
      part = [] ∧ ∃ red green blue,
        components = red ++ ',' :: (green ++ ',' :: blue) ∧
        (∀ part ∈ [red, green, blue], ∀ c ∈ part, (Text.digitValue? c).isSome = true) ∧
        [] ∈ [red, green, blue] := by
  constructor
  · rintro ⟨wellFormed, fails⟩
    rcases exists_three_components fails with ⟨red, green, blue, cut⟩
    have shape := components_of_splitWhere cut
    have decimal : ∀ part ∈ [red, green, blue], ∀ c ∈ part,
        (Text.digitValue? c).isSome = true := by
      intro part member c inPart
      have isPart : part ∈ Text.splitWhere (· == ',') components := cut ▸ member
      have noComma := Text.not_stop_of_mem_splitWhere isPart inPart
      rw [beq_eq_false_iff_ne] at noComma
      have inside : c ∈ components := by
        rw [shape]
        simp only [List.mem_cons, List.not_mem_nil, or_false] at member
        rcases member with rfl | rfl | rfl <;> simp [inPart]
      exact (((isComponents_iff free).mp wellFormed).2 c inside).resolve_right noComma
    rw [shape] at fails
    rcases (ofComponents_eq_notInteger_iff decimal word).mp fails with ⟨isEmpty, hollow⟩
    exact ⟨isEmpty, red, green, blue, shape, decimal, hollow⟩
  · rintro ⟨rfl, red, green, blue, rfl, decimal, hollow⟩
    refine ⟨(isComponents_iff free).mpr ⟨by simp, fun c member => ?_⟩,
      (ofComponents_eq_notInteger_iff decimal word).mpr ⟨rfl, hollow⟩⟩
    simp only [List.mem_append, List.mem_cons] at member
    simp only [List.mem_cons, List.not_mem_nil, or_false, forall_eq_or_imp, forall_eq] at decimal
    rcases member with inRed | rfl | inGreen | rfl | inBlue
    · exact .inl (decimal.1 c inRed)
    · exact .inr rfl
    · exact .inl (decimal.2.1 c inGreen)
    · exact .inr rfl
    · exact .inl (decimal.2.2 c inBlue)

section

variable {word : Text}

/-- A colour given by components is read by their integers. -/
theorem read_mix
    {components : Text}
    (shape : Text.lower word = "rgb(".toList ++ components ++ [')']) :
    read word =
      if isComponents components then
        (ofComponents word components).map fun hue => ⟨Text.lower word, hue⟩
      else .error (.unknown word) := by
  have isMix : argument? "rgb(" (Text.lower word) = some components :=
    (argument?_eq_some_iff (by decide)).mpr shape
  rw [List.append_assoc] at shape
  have notDefault : Text.lower word ≠ "default".toList := by
    intro same
    rw [shape] at same
    cases same
  have notHex : ofHex? (Text.lower word) = none := by
    rw [shape]
    rfl
  have notNumbered : argument? "color(" (Text.lower word) = none := by
    rw [shape]
    rfl
  unfold read
  simp only [notDefault, ↓reduceIte, notHex, notNumbered, isMix, Option.bind_none]

theorem exists_mix_of_read
    {part : Text}
    (fails : read word = .error (.notInteger part)) :
    ∃ components, Text.lower word = "rgb(".toList ++ components ++ [')'] := by
  unfold read at fails
  dsimp only at fails
  split at fails
  · cases fails
  · split at fails
    · cases fails
    · split at fails <;> cases fails
    · next components _ _ argument =>
        exact ⟨components, (argument?_eq_some_iff (by decide)).mp argument⟩
    · cases fails
    · cases fails

/-- A colour fails over a number when it is a hollow mix; what it fails over is the empty text. -/
theorem read_eq_notInteger_iff
    (free : Text.BlankFree word)
    {part : Text} :
    read word = .error (.notInteger part) ↔ part = [] ∧ HollowMix word := by
  have inside {components : Text}
      (shape : Text.lower word = "rgb(".toList ++ components ++ [')']) :
      Text.BlankFree components := by
    have lowerFree := Text.blankFree_lower free
    rw [shape, Text.blankFree_append_iff, Text.blankFree_append_iff] at lowerFree
    exact lowerFree.1.2
  constructor
  · intro fails
    rcases exists_mix_of_read fails with ⟨components, shape⟩
    rw [read_mix shape] at fails
    split at fails
    · next wellFormed =>
        have componentsFail : ofComponents word components = .error (.notInteger part) := by
          cases result : ofComponents word components with
          | ok hue =>
              rw [result] at fails
              cases fails
          | error fault =>
              rw [result] at fails
              cases fails
              rfl
        rcases (ofComponents_fails_iff word (inside shape)).mp ⟨wellFormed, componentsFail⟩ with
          ⟨isEmpty, red, green, blue, rfl, decimal, hollow⟩
        exact ⟨isEmpty, red, green, blue, shape, decimal, hollow⟩
    · cases fails
  · rintro ⟨isEmpty, red, green, blue, shape, decimal, hollow⟩
    have componentsFail := (ofComponents_fails_iff word (inside shape)).mpr
      ⟨isEmpty, red, green, blue, rfl, decimal, hollow⟩
    rcases componentsFail with ⟨wellFormed, fails⟩
    rw [read_mix shape, if_pos wellFormed, fails]
    rfl

end

end Colour

namespace Style

/-- A word of a definition that is read as a colour for the text. -/
structure NamesColour (word : Text) : Prop where
  notOn : Text.lower word ≠ "on".toList
  notNot : Text.lower word ≠ "not".toList
  notLink : Text.lower word ≠ "link".toList
  notAttribute : Attribute.ofName? (Text.lower word) = none

/-- One or two words that change a style. -/
inductive Applies (style : Style) : List Text → Style → Prop where
  | background {word next : Text} {colour : Colour}
      (isOn : Text.lower word = "on".toList)
      (isColour : Colour.read next = .ok colour) :
      Applies style [word, next] { style with background := some colour }
  | without {word next : Text} {trait : Attribute}
      (notOn : Text.lower word ≠ "on".toList)
      (isNot : Text.lower word = "not".toList)
      (isAttribute : Attribute.ofName? next = some trait) :
      Applies style [word, next] (style.set trait false)
  | address {word next : Text}
      (notOn : Text.lower word ≠ "on".toList)
      (notNot : Text.lower word ≠ "not".toList)
      (isLink : Text.lower word = "link".toList) :
      Applies style [word, next] { style with link := some next }
  | named {word : Text} {trait : Attribute}
      (notOn : Text.lower word ≠ "on".toList)
      (notNot : Text.lower word ≠ "not".toList)
      (notLink : Text.lower word ≠ "link".toList)
      (isAttribute : Attribute.ofName? (Text.lower word) = some trait) :
      Applies style [word] (style.set trait true)
  | foreground {word : Text} {colour : Colour}
      (names : NamesColour word)
      (isColour : Colour.read (Text.lower word) = .ok colour) :
      Applies style [word] { style with foreground := some colour }

/-- Words that define a style one after the other. -/
inductive Reads : Style → List Text → Style → Prop where
  | nil {style : Style} : Reads style [] style
  | step {style next last : Style} {taken rest : List Text}
      (applies : Applies style taken next)
      (reads : Reads next rest last) :
      Reads style (taken ++ rest) last

/-- Words in front that make no sense, and why. -/
inductive StopsAt : List Text → StyleFault → Prop where
  | nothingBehindOn {word : Text}
      (isOn : Text.lower word = "on".toList) :
      StopsAt [word] .backgroundExpected
  | background {word next : Text} {rest : List Text} {why : ColourFault}
      (isOn : Text.lower word = "on".toList)
      (noColour : Colour.read next = .error why) :
      StopsAt (word :: next :: rest) (.badBackground next why)
  | nothingBehindNot {word : Text}
      (notOn : Text.lower word ≠ "on".toList)
      (isNot : Text.lower word = "not".toList) :
      StopsAt [word] (.attributeExpected [])
  | unknown {word next : Text} {rest : List Text}
      (notOn : Text.lower word ≠ "on".toList)
      (isNot : Text.lower word = "not".toList)
      (noAttribute : Attribute.ofName? next = none) :
      StopsAt (word :: next :: rest) (.attributeExpected next)
  | nothingBehindLink {word : Text}
      (notOn : Text.lower word ≠ "on".toList)
      (notNot : Text.lower word ≠ "not".toList)
      (isLink : Text.lower word = "link".toList) :
      StopsAt [word] .addressExpected
  | foreground {word : Text} {rest : List Text} {why : ColourFault}
      (names : NamesColour word)
      (noColour : Colour.read (Text.lower word) = .error why) :
      StopsAt (word :: rest) (.badColour (Text.lower word) why)

section

variable {style next last : Style} {taken before rest words : List Text} {fault : StyleFault}

/-- Words that apply are read before the rest. -/
theorem Applies.applyWords_append
    (applies : Applies style taken next)
    (rest : List Text) :
    applyWords style (taken ++ rest) = applyWords next rest := by
  cases applies with
  | background isOn isColour =>
      simp only [List.cons_append, List.nil_append, applyWords, isOn, ↓reduceIte, isColour]
  | without notOn isNot isAttribute =>
      rw [List.cons_append, List.cons_append, applyWords]
      simp only [if_neg notOn, if_pos isNot, isAttribute, List.nil_append]
  | address notOn notNot isLink =>
      rw [List.cons_append, List.cons_append, applyWords]
      simp only [if_neg notOn, if_neg notNot, if_pos isLink, List.nil_append]
  | named notOn notNot notLink isAttribute =>
      rw [List.cons_append, applyWords.eq_def]
      simp only [notOn, notNot, notLink, ↓reduceIte, isAttribute, List.nil_append]
  | foreground names isColour =>
      rw [List.cons_append, applyWords.eq_def]
      simp only [names.notOn, names.notNot, names.notLink, ↓reduceIte, names.notAttribute,
        isColour, List.nil_append]

/-- Words that are read leave the rest to be read on. -/
theorem Reads.applyWords_append
    (reads : Reads style before last)
    (rest : List Text) :
    applyWords style (before ++ rest) = applyWords last rest := by
  induction reads with
  | nil => rfl
  | step applies _ inductionHypothesis =>
      rw [List.append_assoc, applies.applyWords_append, inductionHypothesis]

/-- Words that stop give the fault they stop with, whatever came before. -/
theorem StopsAt.applyWords_eq
    (stops : StopsAt words fault)
    (style : Style) :
    applyWords style words = .error fault := by
  cases stops with
  | nothingBehindOn isOn =>
      simp only [applyWords, isOn, ↓reduceIte]
  | background isOn noColour =>
      simp only [applyWords, isOn, ↓reduceIte, noColour]
  | nothingBehindNot notOn isNot =>
      simp only [applyWords, if_neg notOn, if_pos isNot]
  | unknown notOn isNot noAttribute =>
      simp only [applyWords, if_neg notOn, if_pos isNot, noAttribute]
  | nothingBehindLink notOn notNot isLink =>
      simp only [applyWords, if_neg notOn, if_neg notNot, if_pos isLink]
  | foreground names noColour =>
      rw [applyWords.eq_def]
      simp only [names.notOn, names.notNot, names.notLink, ↓reduceIte, names.notAttribute,
        noColour]

/-- What becomes of words: they define a style, or reading stops behind some that do. -/
inductive Comes (style : Style) (words : List Text) : Except StyleFault Style → Prop where
  | defined {last : Style} (reads : Reads style words last) : Comes style words (.ok last)
  | stopped {before rest : List Text} {middle : Style} {fault : StyleFault}
      (shape : words = before ++ rest)
      (reads : Reads style before middle)
      (stops : StopsAt rest fault) :
      Comes style words (.error fault)

/-- A step that applies comes before what comes of the rest. -/
theorem Comes.step
    {result : Except StyleFault Style}
    (applies : Applies style taken next)
    (comes : Comes next rest result) :
    Comes style (taken ++ rest) result := by
  cases comes with
  | defined reads => exact .defined (.step applies reads)
  | stopped shape reads stops =>
      exact .stopped (by rw [shape, List.append_assoc]) (.step applies reads) stops

/-- Something comes of any words, and it is what the reader gives. -/
theorem comes_applyWords
    (style : Style)
    (words : List Text) :
    Comes style words (applyWords style words) := by
  fun_induction applyWords style words with
  | case1 style => exact .defined .nil
  | case2 style word key isOn => exact .stopped rfl .nil (.nothingBehindOn isOn)
  | case3 style word key isOn next others why noColour =>
      exact .stopped rfl .nil (.background isOn noColour)
  | case4 style word key isOn next others colour isColour comes =>
      exact comes.step (.background isOn isColour)
  | case5 style word key notOn isNot => exact .stopped rfl .nil (.nothingBehindNot notOn isNot)
  | case6 style word key notOn isNot next others noAttribute =>
      exact .stopped rfl .nil (.unknown notOn isNot noAttribute)
  | case7 style word key notOn isNot next others trait isAttribute comes =>
      exact comes.step (.without notOn isNot isAttribute)
  | case8 style word key notOn notNot isLink =>
      exact .stopped rfl .nil (.nothingBehindLink notOn notNot isLink)
  | case9 style word key notOn notNot isLink next others comes =>
      exact comes.step (.address notOn notNot isLink)
  | case10 style word others key notOn notNot notLink trait isAttribute comes =>
      exact comes.step (.named notOn notNot notLink isAttribute)
  | case11 style word others key notOn notNot notLink noAttribute why noColour =>
      exact .stopped rfl .nil (.foreground ⟨notOn, notNot, notLink, noAttribute⟩ noColour)
  | case12 style word others key notOn notNot notLink noAttribute colour isColour comes =>
      exact comes.step (.foreground ⟨notOn, notNot, notLink, noAttribute⟩ isColour)

/-- Words are applied exactly when they read, to the style that they read as. -/
theorem applyWords_eq_ok_iff : applyWords style words = .ok last ↔ Reads style words last := by
  constructor
  · intro defines
    have comes := comes_applyWords style words
    rw [defines] at comes
    cases comes with
    | defined reads => exact reads
  · intro reads
    have whole := reads.applyWords_append []
    rwa [List.append_nil, applyWords] at whole

/-- Reading fails at the first words that make no sense behind words that define a style. -/
theorem applyWords_eq_error_iff :
    applyWords style words = .error fault ↔
      ∃ before rest middle,
        words = before ++ rest ∧ applyWords style before = .ok middle ∧ StopsAt rest fault := by
  constructor
  · intro fails
    have comes := comes_applyWords style words
    rw [fails] at comes
    cases comes with
    | stopped shape reads stops =>
        exact ⟨_, _, _, shape, applyWords_eq_ok_iff.mpr reads, stops⟩
  · rintro ⟨before, rest, middle, rfl, defines, stops⟩
    rw [(applyWords_eq_ok_iff.mp defines).applyWords_append]
    exact stops.applyWords_eq middle

end

end Style

end Splice
