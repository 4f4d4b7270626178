import Splice.Proofs.Inversion
import Splice.Proofs.Style.Shelves
import Splice.Proofs.Text.Numerals
import Splice.Settings.Load

namespace Splice

/-!
# What a configuration describes

Settings are read from a dictionary one by one.  Each has an entry in its section, or takes
its standard value; what an entry may hold depends on the setting alone.  So a dictionary
describes settings (`Describes`) or it is refused, and `load_describes` says that loading
finds what is described, and finds something exactly when every section and every entry is
well-formed.
-/

namespace Environment

variable {δ : Type} (environment : Environment)

/-- Mentions without a name read back as the text that they were found in. -/
theorem expandAll_of_unmentioned
    {found : List Mention}
    (unmentioned : found.filterMap Mention.name? = []) :
    environment.expandAll found = .ok (found.flatMap Mention.source) := by
  induction found with
  | nil => rfl
  | cons mention rest inductionHypothesis =>
      cases mention with
      | literal c =>
          rw [expandAll, inductionHypothesis unmentioned]
          rfl
      | reference name => cases unmentioned

mutual

/-- A value that mentions no variable stays as it is. -/
theorem substitute_of_unmentioned
    (value : Value δ)
    (unmentioned : value.mentionedNames = []) :
    environment.substitute value = .ok value := by
  cases value with
  | text t =>
      rw [Value.mentionedNames] at unmentioned
      rw [substitute, environment.expandAll_of_unmentioned unmentioned, source_mentions]
      rfl
  | list items =>
      rw [Value.mentionedNames] at unmentioned
      rw [substitute, substituteAll_of_unmentioned items unmentioned]
      rfl
  | dict entries =>
      rw [Value.mentionedNames] at unmentioned
      rw [substitute, substituteEntries_of_unmentioned entries unmentioned]
      rfl
  | _ => rfl

theorem substituteAll_of_unmentioned
    (items : List (Value δ))
    (unmentioned : Value.mentionedInAll items = []) :
    environment.substituteAll items = .ok items := by
  cases items with
  | nil => rfl
  | cons item rest =>
      rw [Value.mentionedInAll, List.append_eq_nil_iff] at unmentioned
      rw [substituteAll, substitute_of_unmentioned item unmentioned.1,
        substituteAll_of_unmentioned rest unmentioned.2]
      rfl

theorem substituteEntries_of_unmentioned
    (entries : Value.Entries δ)
    (unmentioned : Value.mentionedInEntries entries = []) :
    environment.substituteEntries entries = .ok entries := by
  cases entries with
  | nil => rfl
  | cons entry rest =>
      rcases entry with ⟨key, value⟩
      rw [Value.mentionedInEntries, List.append_eq_nil_iff] at unmentioned
      rw [substituteEntries, substitute_of_unmentioned value unmentioned.1,
        substituteEntries_of_unmentioned rest unmentioned.2]
      rfl

end

/-- Replacing variables leaves the keys and their order as they are. -/
theorem map_fst_substituteEntries
    {entries replaced : Value.Entries δ}
    (isReplaced : environment.substituteEntries entries = .ok replaced) :
    replaced.map Prod.fst = entries.map Prod.fst := by
  induction entries generalizing replaced with
  | nil =>
      cases isReplaced
      rfl
  | cons entry rest inductionHypothesis =>
      rcases entry with ⟨key, value⟩
      rw [substituteEntries] at isReplaced
      rcases bind_eq_ok isReplaced with ⟨first, _, isReplaced⟩
      rcases bind_eq_ok isReplaced with ⟨others, isOthers, isReplaced⟩
      cases isReplaced
      rw [List.map_cons, List.map_cons, inductionHypothesis isOthers]

/-- Replacing variables gives no key an entry that it did not have. -/
theorem get?_substituteEntries
    {entries replaced : Value.Entries δ}
    (isReplaced : environment.substituteEntries entries = .ok replaced)
    {key : String}
    (missing : Value.get? key entries = none) :
    Value.get? key replaced = none := by
  have noKey {found : Value.Entries δ} :
      Value.get? key found = none ↔
        ∀ known ∈ found.map Prod.fst, known.sameKey (.text key.toList) = false := by
    simp [Value.get?, Value.find?]
  rw [noKey, environment.map_fst_substituteEntries isReplaced]
  exact noKey.mp missing

end Environment

namespace Settings

/-- A value that gives a cap: a positive integer, or a text that spells one. -/
inductive GivesCap : Datum → Nat → Prop where
  | integer {n : Nat} (positive : 0 < n) : GivesCap (.int n) n
  /-- Between its blanks, none of which is an information separator, stand decimal digits. -/
  | text {t : Text} {n : Nat}
      (spells : Text.decimal? (Text.trim t) = some n)
      (free : Text.SeparatorFree t)
      (positive : 0 < n) :
      GivesCap (.text t) n

/-- A value that gives a switch: a truth value, or a word for one in any case, between blanks. -/
inductive GivesSwitch : Datum → Bool → Prop where
  | truth (b : Bool) : GivesSwitch (.bool b) b
  | word {t : Text} {b : Bool}
      (isWord : (String.ofList (Text.lower (Text.trim t)), b) ∈
        [("true", true), ("false", false), ("1", true), ("0", false)]) :
      GivesSwitch (.text t) b

/-- A value that gives a text: the one that it is displayed as. -/
def GivesText (value : Datum) (t : Text) : Prop :=
  value.display = t

/-- A value that gives a colour system: the one whose name it is displayed as. -/
def GivesSystem (value : Datum) (system : ColourSystem) : Prop :=
  value.display = system.name.toList

/-- What a setting of a section is: what its entry gives, or the standard without an entry. -/
inductive Setting {α : Type}
    (gives : Datum → α → Prop)
    (standard : α)
    (entries : Value.Entries Empty)
    (key : String) :
    α → Prop where
  | standard (missing : Value.get? key entries = none) : Setting gives standard entries key standard
  | given {value : Datum} {found : α}
      (entry : Value.get? key entries = some value)
      (isGiven : gives value found) :
      Setting gives standard entries key found

/-- The entries of a section; one that is absent, or that counts as absent, has none. -/
inductive Section (entries : Value.Entries Empty) (name : String) : Value.Entries Empty → Prop where
  | absent (missing : Value.get? name entries = none) : Section entries name []
  | void {value : Datum}
      (entry : Value.get? name entries = some value)
      (counts : value.isTruthy = false) :
      Section entries name []
  | mapping {inner : Value.Entries Empty}
      (entry : Value.get? name entries = some (.dict inner)) :
      Section entries name inner

/-- The spacing rules that a section describes. -/
structure DescribesSpacing (inner : Value.Entries Empty) (spacing : Spacing) : Prop where
  cap : Setting GivesCap 2 inner SpacingFields.capKey spacing.cap
  capAfterOpen : Setting GivesCap 1 inner SpacingFields.capAfterOpenKey spacing.capAfterOpen
  capBeforeClose : Setting GivesCap 1 inner SpacingFields.capBeforeCloseKey spacing.capBeforeClose
  finalBreak : Setting GivesSwitch true inner SpacingFields.finalBreakKey spacing.finalBreak

/-- The settings of debug rendering that a section describes. -/
structure DescribesTracing (inner : Value.Entries Empty) (tracing : Tracing) : Prop where
  legendTitle : Setting GivesText "Provenance".toList inner TracingFields.legendTitleKey
    tracing.legendTitle
  system : Setting GivesSystem .eightBit inner TracingFields.systemKey tracing.system
  definition : Setting GivesText "underline".toList inner TracingFields.definitionKey
    tracing.definition

/-- The settings that a dictionary describes. -/
def Describes (entries : Value.Entries Empty) (settings : Settings) : Prop :=
  (∃ inner, Section entries spacingSection inner ∧ DescribesSpacing inner settings.spacing) ∧
  ∃ inner, Section entries tracingSection inner ∧ DescribesTracing inner settings.tracing

/-- A section gives the entries that it describes, and fails if it describes none. -/
theorem sectionEntries_eq_ok_iff
    {entries inner : Value.Entries Empty}
    {name : String} :
    sectionEntries entries name = .ok inner ↔ Section entries name inner := by
  constructor
  · intro reads
    unfold sectionEntries at reads
    split at reads
    · next missing =>
        cases reads
        exact .absent missing
    · next entry =>
        cases reads
        exact .mapping entry
    · next value _ entry =>
        split at reads
        · cases reads
        · next void =>
            cases reads
            exact .void entry (Bool.eq_false_iff.mpr void)
  · intro described
    unfold sectionEntries
    cases described with
    | absent missing => rw [missing]
    | mapping entry => rw [entry]
    | @void value entry counts =>
        rw [entry]
        cases value with
        | dict inner =>
            rw [Value.isTruthy, Bool.not_eq_false', List.isEmpty_iff] at counts
            rw [counts]
        | _ =>
            dsimp only
            rw [counts]
            rfl

/-- The check of a cap lets exactly the positive integers pass. -/
theorem checkCap_eq_ok_iff
    {key : String}
    {found : Datum}
    {cap : { n : Nat // 0 < n }} :
    SpacingFields.checkCap key found = .ok cap ↔ found = .int cap.val := by
  constructor
  · intro checks
    unfold SpacingFields.checkCap at checks
    split at checks
    · next n =>
        split at checks
        · next positive =>
            cases checks
            exact congrArg Value.int (Int.toNat_of_nonneg (by omega)).symm
        · cases checks
    · cases checks
  · rintro rfl
    simp [SpacingFields.checkCap, cap.property]

section

variable {inner : Value.Entries Empty} {key : String}

/-- A text gives a cap exactly when it spells a positive number once its blanks are gone. -/
theorem givesCap_text_iff
    {t : Text}
    {n : Nat} :
    GivesCap (.text t) n ↔ Text.decimal? (Text.trimNumber t) = some n ∧ 0 < n := by
  rw [Text.decimal?_trimNumber_eq_some_iff]
  constructor
  · intro gives
    cases gives with
    | text spells free positive => exact ⟨⟨spells, free⟩, positive⟩
  · rintro ⟨⟨spells, free⟩, positive⟩
    exact .text spells free positive

/-- A value that is read as a number gives a cap when the number is positive. -/
theorem number_of_entry
    {value : Datum}
    (entry : Value.get? key inner = some value)
    (standard : Datum)
    (n : Nat) :
    number inner key standard = .ok (.int n) ∧ 0 < n ↔ GivesCap value n := by
  unfold number
  rw [entry, Option.getD_some]
  cases value with
  | text t =>
      rw [givesCap_text_iff]
      refine and_congr_left fun _ => ?_
      dsimp only
      cases spells : Text.decimal? (Text.trimNumber t) with
      | none => split <;> simp
      | some m =>
          have digits := Text.allDigits_of_isDecimal (Text.exists_decimal_iff.mp
            ⟨m, (Text.decimal?_trimNumber_eq_some_iff.mp spells).1⟩)
          simp only [digits, ↓reduceIte, Except.ok.injEq, Value.int.injEq, Option.some.injEq,
            Int.ofNat_inj]
  | int m =>
      constructor
      · rintro ⟨same, positive⟩
        cases same
        exact .integer positive
      · rintro (positive | _)
        exact ⟨rfl, positive⟩
  | _ =>
      refine iff_of_false ?_ ?_
      · rintro ⟨same, _⟩
        cases same
      · rintro (_ | _)

section

variable {α : Type} {gives : Datum → α → Prop} {standard found : α}

/-- A setting that is missing has its standard value. -/
theorem setting_of_missing
    (missing : Value.get? key inner = none) :
    Setting gives standard inner key found ↔ found = standard := by
  constructor
  · rintro (_ | ⟨entry, _⟩)
    · rfl
    · cases missing.symm.trans entry
  · rintro rfl
    exact .standard missing

/-- A setting that is there has the value that its entry gives. -/
theorem setting_of_entry
    {value : Datum}
    (entry : Value.get? key inner = some value) :
    Setting gives standard inner key found ↔ gives value found := by
  constructor
  · rintro (missing | ⟨alsoEntry, isGiven⟩)
    · cases missing.symm.trans entry
    · cases alsoEntry.symm.trans entry
      exact isGiven
  · exact .given entry

end

/-- A number that is read is the cap that its entry gives, or the standard one. -/
theorem number_eq_ok_iff
    {standard n : Nat}
    (isPositive : 0 < standard) :
    number inner key (.int standard) = .ok (.int n) ∧ 0 < n ↔
      Setting GivesCap standard inner key n := by
  cases entry : Value.get? key inner with
  | some value => rw [number_of_entry entry, setting_of_entry entry]
  | none =>
      have reads : number inner key (.int standard) = .ok (.int standard) := by
        unfold number
        rw [entry]
        rfl
      rw [reads, setting_of_missing entry]
      simp only [Except.ok.injEq, Value.int.injEq, Int.ofNat_inj]
      exact ⟨fun both => both.1.symm, fun same => ⟨same.symm, same ▸ isPositive⟩⟩

/-- A switch is written as one of four words. -/
theorem lookup_switchWords_iff
    {word : String}
    {b : Bool} :
    switchWords.lookup word = some b ↔
      (word, b) ∈ [("true", true), ("false", false), ("1", true), ("0", false)] := by
  constructor
  · intro found
    rcases List.lookup_eq_some_iff.mp found with ⟨before, after, shape, _⟩
    have member : (word, b) ∈ switchWords := by
      rw [shape]
      exact List.mem_append_right _ List.mem_cons_self
    exact member
  · intro member
    simp only [List.mem_cons, Prod.mk.injEq, List.not_mem_nil, or_false] at member
    rcases member with ⟨rfl, rfl⟩ | ⟨rfl, rfl⟩ | ⟨rfl, rfl⟩ | ⟨rfl, rfl⟩ <;> rfl

/-- A switch that is read is the one that its entry gives, or the standard one. -/
theorem switch_eq_ok_iff
    {standard b : Bool} :
    switch inner key standard = .ok b ↔ Setting GivesSwitch standard inner key b := by
  unfold switch
  cases entry : Value.get? key inner with
  | none =>
      rw [setting_of_missing entry]
      simp [eq_comm]
  | some value =>
      rw [setting_of_entry entry, Option.getD_some]
      cases value with
      | bool truth =>
          constructor
          · intro same
            cases same
            exact .truth b
          · rintro (_ | _)
            rfl
      | text t =>
          have reads : GivesSwitch (.text t) b ↔
              switchWords.lookup (String.ofList (Text.lower (Text.trim t))) = some b := by
            rw [lookup_switchWords_iff]
            constructor
            · rintro (_ | isWord)
              exact isWord
            · exact .word
          rw [reads]
          dsimp only
          split
          · next found => rw [found, Except.ok.injEq, Option.some.injEq]
          · next found => simp [found]
      | _ =>
          refine iff_of_false (fun same => ?_) ?_
          · cases same
          · rintro (_ | _)

/-- A text that is shown is the one that its entry gives, or the standard one. -/
theorem shown_eq_iff
    {standard t : Text} :
    shown inner key standard = t ↔ Setting GivesText standard inner key t := by
  unfold shown
  cases entry : Value.get? key inner with
  | none =>
      rw [setting_of_missing entry]
      exact eq_comm
  | some value =>
      rw [setting_of_entry entry]
      rfl

end

/-- Spacing rules pass their check exactly when the three caps are positive integers. -/
theorem checkSpacing_eq_ok_iff
    {cap capAfterOpen capBeforeClose finalBreak : Datum}
    {spacing : Spacing} :
    SpacingFields.check ⟨cap, capAfterOpen, capBeforeClose, finalBreak⟩ = .ok spacing ↔
      cap = .int spacing.cap ∧ capAfterOpen = .int spacing.capAfterOpen ∧
      capBeforeClose = .int spacing.capBeforeClose ∧ finalBreak.isTruthy = spacing.finalBreak := by
  constructor
  · intro checks
    rcases bind_eq_ok checks with ⟨first, isFirst, checks⟩
    rcases bind_eq_ok checks with ⟨second, isSecond, checks⟩
    rcases bind_eq_ok checks with ⟨third, isThird, checks⟩
    cases checks
    exact ⟨checkCap_eq_ok_iff.mp isFirst, checkCap_eq_ok_iff.mp isSecond,
      checkCap_eq_ok_iff.mp isThird, rfl⟩
  · rcases spacing with ⟨first, second, third, last, positive, alsoPositive, thirdPositive⟩
    rintro ⟨rfl, rfl, rfl, same⟩
    dsimp only at same
    have checks {key : String} {n : Nat} (positive : 0 < n) :
        SpacingFields.checkCap key (.int n) = .ok ⟨n, positive⟩ :=
      checkCap_eq_ok_iff.mpr rfl
    unfold SpacingFields.check
    rw [checks positive, checks alsoPositive, checks thirdPositive]
    simp only [bind, Except.bind, pure, Except.pure, same]

/-- A section gives the spacing rules that it describes, and fails if it describes none. -/
theorem spacingOf_eq_ok_iff
    {inner : Value.Entries Empty}
    {spacing : Spacing} :
    spacingOf inner = .ok spacing ↔ DescribesSpacing inner spacing := by
  constructor
  · intro reads
    rcases bind_eq_ok reads with ⟨cap, isCap, reads⟩
    rcases bind_eq_ok reads with ⟨capAfterOpen, isCapAfterOpen, reads⟩
    rcases bind_eq_ok reads with ⟨capBeforeClose, isCapBeforeClose, reads⟩
    rcases bind_eq_ok reads with ⟨finalBreak, isFinalBreak, checks⟩
    rcases checkSpacing_eq_ok_iff.mp checks with ⟨rfl, rfl, rfl, same⟩
    have isSame : finalBreak = spacing.finalBreak := same
    exact {
      cap := (number_eq_ok_iff (by decide)).mp ⟨isCap, spacing.cap_pos⟩
      capAfterOpen := (number_eq_ok_iff (by decide)).mp ⟨isCapAfterOpen, spacing.capAfterOpen_pos⟩
      capBeforeClose :=
        (number_eq_ok_iff (by decide)).mp ⟨isCapBeforeClose, spacing.capBeforeClose_pos⟩
      finalBreak := switch_eq_ok_iff.mp (isSame ▸ isFinalBreak) }
  · rintro ⟨cap, capAfterOpen, capBeforeClose, finalBreak⟩
    have isCap : number inner SpacingFields.capKey (.int 2) = _ :=
      ((number_eq_ok_iff (by decide)).mpr cap).1
    have isCapAfterOpen : number inner SpacingFields.capAfterOpenKey (.int 1) = _ :=
      ((number_eq_ok_iff (by decide)).mpr capAfterOpen).1
    have isCapBeforeClose : number inner SpacingFields.capBeforeCloseKey (.int 1) = _ :=
      ((number_eq_ok_iff (by decide)).mpr capBeforeClose).1
    unfold spacingOf
    rw [isCap, isCapAfterOpen, isCapBeforeClose, switch_eq_ok_iff.mpr finalBreak]
    exact checkSpacing_eq_ok_iff.mpr ⟨rfl, rfl, rfl, rfl⟩

/-- A colour system is known by its own name only. -/
theorem ofName?_eq_some_iff
    {t : Text}
    {system : ColourSystem} :
    ColourSystem.ofName? (String.ofList t) = some system ↔ t = system.name.toList := by
  constructor
  · intro found
    have same := List.find?_some found
    rw [beq_iff_eq] at same
    rw [same, String.toList_ofList]
  · rintro rfl
    rw [String.ofList_toList]
    exact ColourSystem.ofName?_name system

/-- Fields of debug rendering are the settings that they give, when these have a style. -/
theorem checkTracing_eq_ok_iff
    {fields : TracingFields}
    {tracing : Tracing} :
    fields.check = .ok tracing ↔
      fields.legendTitle = tracing.legendTitle ∧ fields.system = tracing.system.name.toList ∧
      fields.definition = tracing.definition := by
  constructor
  · intro checks
    unfold TracingFields.check at checks
    split at checks
    · cases checks
    · next system found =>
        split at checks
        · cases checks
        · cases checks
          exact ⟨rfl, ofName?_eq_some_iff.mp found, rfl⟩
  · rintro ⟨sameTitle, sameSystem, sameDefinition⟩
    have defines := tracing.define_definition
    rw [← sameDefinition] at defines
    unfold TracingFields.check
    rw [ofName?_eq_some_iff.mpr sameSystem]
    dsimp only
    split
    · next why fails => cases fails.symm.trans defines
    · next boundary alsoDefines =>
        cases defines.symm.trans alsoDefines
        rcases tracing with ⟨title, itsSystem, itsDefinition, itsBoundary, itsStyle⟩
        cases sameTitle
        cases sameDefinition
        rfl

/-- A section gives the debug settings that it describes, and fails if it describes none. -/
theorem tracingOf_eq_ok_iff
    {inner : Value.Entries Empty}
    {tracing : Tracing} :
    tracingOf inner = .ok tracing ↔ DescribesTracing inner tracing := by
  have systemIff :
      shown inner TracingFields.systemKey "256".toList = tracing.system.name.toList ↔
        Setting GivesSystem .eightBit inner TracingFields.systemKey tracing.system := by
    unfold shown
    cases entry : Value.get? TracingFields.systemKey inner with
    | none =>
        rw [setting_of_missing entry]
        cases tracing.system <;> decide
    | some value =>
        rw [setting_of_entry entry]
        rfl
  unfold tracingOf
  rw [checkTracing_eq_ok_iff]
  constructor
  · rintro ⟨title, system, definition⟩
    exact ⟨shown_eq_iff.mp title, systemIff.mp system, shown_eq_iff.mp definition⟩
  · rintro ⟨title, system, definition⟩
    exact ⟨shown_eq_iff.mpr title, systemIff.mpr system, shown_eq_iff.mpr definition⟩

section

variable {entries : Value.Entries Empty}

/-- A dictionary gives the settings that it describes, and fails if it describes none. -/
theorem ofEntries_eq_ok_iff
    {settings : Settings} :
    ofEntries entries = .ok settings ↔ Describes entries settings := by
  constructor
  · intro reads
    rcases bind_eq_ok reads with ⟨spacingEntries, isSection, reads⟩
    rcases bind_eq_ok reads with ⟨spacing, isSpacing, reads⟩
    rcases bind_eq_ok reads with ⟨tracingEntries, alsoSection, reads⟩
    rcases bind_eq_ok reads with ⟨tracing, isTracing, reads⟩
    cases reads
    exact ⟨⟨_, sectionEntries_eq_ok_iff.mp isSection, spacingOf_eq_ok_iff.mp isSpacing⟩,
      ⟨_, sectionEntries_eq_ok_iff.mp alsoSection, tracingOf_eq_ok_iff.mp isTracing⟩⟩
  · rintro ⟨⟨spacingEntries, isSection, isSpacing⟩, ⟨tracingEntries, alsoSection, isTracing⟩⟩
    unfold ofEntries
    rw [sectionEntries_eq_ok_iff.mpr isSection, sectionEntries_eq_ok_iff.mpr alsoSection]
    simp only [bind, Except.bind, spacingOf_eq_ok_iff.mpr isSpacing,
      tracingOf_eq_ok_iff.mpr isTracing, pure, Except.pure]

/-- A section that may be read: absent, of a value that counts as absent, or a dictionary. -/
def SectionWellFormed (entries : Value.Entries Empty) (name : String) : Prop :=
  ∀ value, Value.get? name entries = some value →
    value.isTruthy = false ∨ ∃ inner, value = .dict inner

/-- Whether an entry of a section, if there is one, gives something. -/
def EntryWellFormed
    {α : Type}
    (gives : Datum → α → Prop)
    (entries : Value.Entries Empty)
    (name key : String) :
    Prop :=
  ∀ inner value, Value.get? name entries = some (.dict inner) →
    Value.get? key inner = some value → ∃ found, gives value found

/-- The value that gives a style: one that is displayed as the definition of a style. -/
def GivesStyle (value : Datum) (style : Style) : Prop :=
  Style.define value.display = .ok style

/-- The names of the caps. -/
def capKeys : List String :=
  [SpacingFields.capKey, SpacingFields.capAfterOpenKey, SpacingFields.capBeforeCloseKey]

/-- A dictionary whose sections and entries may all be read. -/
structure WellFormed (entries : Value.Entries Empty) : Prop where
  sections : ∀ name ∈ [spacingSection, tracingSection], SectionWellFormed entries name
  caps : ∀ key ∈ capKeys, EntryWellFormed GivesCap entries spacingSection key
  finalBreak : EntryWellFormed GivesSwitch entries spacingSection SpacingFields.finalBreakKey
  system : EntryWellFormed GivesSystem entries tracingSection TracingFields.systemKey
  definition : EntryWellFormed GivesStyle entries tracingSection TracingFields.definitionKey

/-- A section describes some entries exactly when it is well formed. -/
theorem exists_section_iff
    {name : String} :
    (∃ inner, Section entries name inner) ↔ SectionWellFormed entries name := by
  constructor
  · rintro ⟨inner, missing | ⟨alsoEntry, counts⟩ | alsoEntry⟩ value entry
    · cases missing.symm.trans entry
    · cases alsoEntry.symm.trans entry
      exact .inl counts
    · cases alsoEntry.symm.trans entry
      exact .inr ⟨inner, rfl⟩
  · intro wellFormed
    cases entry : Value.get? name entries with
    | none => exact ⟨[], .absent entry⟩
    | some value =>
        rcases wellFormed value entry with counts | ⟨inner, rfl⟩
        · exact ⟨[], .void entry counts⟩
        · exact ⟨inner, .mapping entry⟩

/-- A dictionary as a section has its own entries. -/
theorem Section.eq_of_mapping
    {name : String}
    {inner other : Value.Entries Empty}
    (described : Section entries name other)
    (entry : Value.get? name entries = some (.dict inner)) :
    other = inner := by
  have reads := sectionEntries_eq_ok_iff.mpr described
  have alsoReads := sectionEntries_eq_ok_iff.mpr (.mapping entry)
  cases reads.symm.trans alsoReads
  rfl

section

variable {α : Type} {gives : Datum → α → Prop} {standard : α} {name key : String}

/-- A well-formed entry, or none at all, gives a setting. -/
theorem exists_setting
    (wellFormed : EntryWellFormed gives entries name key)
    (standard : α)
    {inner : Value.Entries Empty}
    (described : Section entries name inner) :
    ∃ found, Setting gives standard inner key found := by
  cases described with
  | absent missing => exact ⟨standard, .standard rfl⟩
  | void entry counts => exact ⟨standard, .standard rfl⟩
  | mapping entry =>
      cases alsoEntry : Value.get? key inner with
      | none => exact ⟨standard, .standard alsoEntry⟩
      | some value =>
          rcases wellFormed inner value entry alsoEntry with ⟨found, isGiven⟩
          exact ⟨found, .given alsoEntry isGiven⟩

/-- An entry that gives a setting is well formed. -/
theorem entryWellFormed_of_setting
    {inner : Value.Entries Empty}
    (described : Section entries name inner)
    {found : α}
    (setting : Setting gives standard inner key found) :
    EntryWellFormed gives entries name key := by
  intro own value entry alsoEntry
  cases described.eq_of_mapping entry
  exact ⟨found, (setting_of_entry alsoEntry).mp setting⟩

end

/-- A cap is positive, whether it is configured or standard. -/
theorem pos_of_setting
    {standard n : Nat}
    (isPositive : 0 < standard)
    {inner : Value.Entries Empty}
    {key : String}
    (setting : Setting GivesCap standard inner key n) :
    0 < n := by
  rcases setting with _ | ⟨_, positive | ⟨_, _, positive⟩⟩
  · exact isPositive
  · exact positive
  · exact positive

/-- A well-formed dictionary describes spacing rules. -/
theorem exists_spacing
    (wellFormed : WellFormed entries) :
    ∃ inner spacing, Section entries spacingSection inner ∧ DescribesSpacing inner spacing := by
  rcases exists_section_iff.mpr (wellFormed.sections spacingSection (by simp)) with
    ⟨inner, described⟩
  have caps := wellFormed.caps
  simp only [capKeys, List.mem_cons, List.not_mem_nil, or_false, forall_eq_or_imp, forall_eq]
    at caps
  rcases exists_setting caps.1 2 described with ⟨cap, isCap⟩
  rcases exists_setting caps.2.1 1 described with ⟨afterOpen, isAfterOpen⟩
  rcases exists_setting caps.2.2 1 described with ⟨beforeClose, isBeforeClose⟩
  rcases exists_setting wellFormed.finalBreak true described with ⟨finalBreak, isFinalBreak⟩
  let spacing : Spacing := {
    cap := cap
    capAfterOpen := afterOpen
    capBeforeClose := beforeClose
    finalBreak := finalBreak
    cap_pos := pos_of_setting (by decide) isCap
    capAfterOpen_pos := pos_of_setting (by decide) isAfterOpen
    capBeforeClose_pos := pos_of_setting (by decide) isBeforeClose }
  exact ⟨inner, spacing, described, isCap, isAfterOpen, isBeforeClose, isFinalBreak⟩

/-- A well-formed dictionary describes debug settings. -/
theorem exists_tracing
    (wellFormed : WellFormed entries) :
    ∃ inner tracing, Section entries tracingSection inner ∧ DescribesTracing inner tracing := by
  rcases exists_section_iff.mpr (wellFormed.sections tracingSection (by simp)) with
    ⟨inner, described⟩
  rcases exists_setting wellFormed.system .eightBit described with ⟨system, isSystem⟩
  rcases exists_setting wellFormed.definition Tracing.standard.boundary described with
    ⟨boundary, isBoundary⟩
  have defined :
      Style.define (shown inner TracingFields.definitionKey "underline".toList) =
        .ok boundary := by
    unfold shown
    cases isBoundary with
    | standard missing =>
        rw [missing]
        exact Tracing.standard.define_definition
    | given entry isGiven =>
        rw [entry]
        exact isGiven
  let tracing : Tracing := {
    legendTitle := shown inner TracingFields.legendTitleKey "Provenance".toList
    system := system
    definition := shown inner TracingFields.definitionKey "underline".toList
    boundary := boundary
    defined := by rw [defined]; rfl }
  exact ⟨inner, tracing, described, shown_eq_iff.mp rfl, isSystem, shown_eq_iff.mp rfl⟩

/-- A dictionary that describes settings is well formed. -/
theorem wellFormed_of_describes
    {settings : Settings}
    (describes : Describes entries settings) :
    WellFormed entries := by
  rcases describes with
    ⟨⟨spacingEntries, isSection, isSpacing⟩, ⟨tracingEntries, alsoSection, isTracing⟩⟩
  refine ⟨?_, ?_, entryWellFormed_of_setting isSection isSpacing.finalBreak,
    entryWellFormed_of_setting alsoSection isTracing.system, ?_⟩
  · intro name member
    simp only [List.mem_cons, List.not_mem_nil, or_false] at member
    rcases member with rfl | rfl
    · exact exists_section_iff.mp ⟨_, isSection⟩
    · exact exists_section_iff.mp ⟨_, alsoSection⟩
  · intro key member
    simp only [capKeys, List.mem_cons, List.not_mem_nil, or_false] at member
    rcases member with rfl | rfl | rfl
    · exact entryWellFormed_of_setting isSection isSpacing.cap
    · exact entryWellFormed_of_setting isSection isSpacing.capAfterOpen
    · exact entryWellFormed_of_setting isSection isSpacing.capBeforeClose
  · intro inner value entry alsoEntry
    cases alsoSection.eq_of_mapping entry
    have isText : value.display = settings.tracing.definition :=
      (setting_of_entry alsoEntry).mp isTracing.definition
    refine ⟨settings.tracing.boundary, ?_⟩
    unfold GivesStyle
    rw [isText]
    exact settings.tracing.define_definition

/-- A dictionary describes settings exactly when it is well formed. -/
theorem exists_describes_iff :
    (∃ settings, Describes entries settings) ↔ WellFormed entries := by
  constructor
  · rintro ⟨settings, describes⟩
    exact wellFormed_of_describes describes
  · intro wellFormed
    rcases exists_spacing wellFormed with ⟨spacingEntries, spacing, isSection, isSpacing⟩
    rcases exists_tracing wellFormed with ⟨tracingEntries, tracing, alsoSection, isTracing⟩
    exact ⟨⟨spacing, tracing⟩, ⟨_, isSection, isSpacing⟩, ⟨_, alsoSection, isTracing⟩⟩

end

/--
A dictionary that mentions no variable gives the settings that it describes, and it gives
settings exactly when its sections and entries are well-formed.
-/
theorem load_describes
    (environment : Environment)
    {entries : Value.Entries Empty}
    (unmentioned : Value.mentionedInEntries entries = []) :
    ((∃ settings, load environment entries = .ok settings) ↔ WellFormed entries) ∧
    ∀ settings, load environment entries = .ok settings ↔ Describes entries settings := by
  have loads : load environment entries = ofEntries entries := by
    unfold load
    rw [environment.substituteEntries_of_unmentioned entries unmentioned]
  rw [loads]
  exact ⟨(exists_congr fun _ => ofEntries_eq_ok_iff).trans exists_describes_iff,
    fun _ => ofEntries_eq_ok_iff⟩

/-- A configuration that writes settings as texts, with an entry that has no meaning. -/
def typed : Value.Entries Empty :=
  [(.text spacingSection.toList, .dict [
      (.text SpacingFields.capKey.toList, .text " 3 ".toList),
      (.text "indent".toList, .int 4),
      (.text SpacingFields.finalBreakKey.toList, .text "FALSE".toList)]),
    (.text tracingSection.toList, .null)]

/-- The spacing rules with up to three line breaks between lines and none behind the last. -/
def typedSpacing : Spacing where
  cap := 3
  capAfterOpen := 1
  capBeforeClose := 1
  finalBreak := false
  cap_pos := by decide
  capAfterOpen_pos := by decide
  capBeforeClose_pos := by decide

/-- A text without a dollar sign mentions no variable. -/
theorem names_mentions_of_no_dollar
    {t : Text}
    (free : '$' ∉ t) :
    (mentions t).filterMap Mention.name? = [] := by
  induction t with
  | nil => simp [mentions]
  | cons c rest inductionHypothesis =>
      rw [List.mem_cons, not_or] at free
      have noReference : Mention.reference? (c :: rest) = none := by
        unfold Mention.reference?
        split
        · next same => exact (free.1 (List.cons.inj same).1.symm).elim
        · rfl
      rw [mentions]
      split
      · next found => cases noReference.symm.trans found
      · exact inductionHypothesis free.2

theorem unmentioned_typed : Value.mentionedInEntries typed = [] := by
  have noNumber := names_mentions_of_no_dollar (t := " 3 ".toList) (by decide)
  have noWord := names_mentions_of_no_dollar (t := "FALSE".toList) (by decide)
  simp only [typed, Value.mentionedInEntries, Value.mentionedNames, noNumber, noWord,
    List.append_nil]

theorem describes_typed : Describes typed ⟨typedSpacing, Tracing.standard⟩ := by
  constructor
  · refine ⟨_, .mapping rfl, ?_, .standard rfl, .standard rfl, ?_⟩
    · exact .given rfl (.text (by decide +kernel) (by simp [Text.SeparatorFree, Text.isSeparator])
        (by decide))
    · have isWord : Text.lower (Text.trim "FALSE".toList) = "false".toList := by decide +kernel
      exact .given rfl (.word (by rw [isWord]; exact List.mem_cons_of_mem _ List.mem_cons_self))
  · exact ⟨_, .void rfl rfl, .standard rfl, .standard rfl, .standard rfl⟩

/-- Texts, numbers and switches of both kinds are read into one set of rules. -/
theorem load_typed :
    Value.mentionedInEntries typed = [] ∧
    WellFormed typed ∧
    load [] typed = .ok ⟨typedSpacing, Tracing.standard⟩ := by
  rcases load_describes [] unmentioned_typed with ⟨wellFormedIff, describesIff⟩
  have loads := (describesIff ⟨typedSpacing, Tracing.standard⟩).mpr describes_typed
  exact ⟨unmentioned_typed, wellFormedIff.mp ⟨_, loads⟩, loads⟩

/-- A configuration whose section for spacing is an empty list. -/
def emptyList : Value.Entries Empty :=
  [(.text spacingSection.toList, .list [])]

/-- An empty list in the place of a section is no dictionary, and is read as an absent one. -/
theorem load_emptyList :
    Value.get? spacingSection emptyList = some (.list []) ∧
    load [] emptyList = .ok Settings.standard := by
  have describes : Describes emptyList Settings.standard := by
    constructor
    · exact ⟨[], .void rfl rfl, .standard rfl, .standard rfl, .standard rfl, .standard rfl⟩
    · exact ⟨[], .absent rfl, .standard rfl, .standard rfl, .standard rfl⟩
  exact ⟨rfl, ofEntries_eq_ok_iff.mpr describes⟩

end Settings

end Splice
