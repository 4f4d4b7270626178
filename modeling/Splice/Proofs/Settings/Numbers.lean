import Splice.Proofs.Settings.Loading
import Splice.Proofs.Style.Definitions

namespace Splice

/-!
# Settings that fail over a number

Settings that make no sense are refused with a fault that names them.  Two things escape
that rule, and both concern a text that looks like a number and spells none: a cap may be
misread (`load_tells_unless_misread`), and the boundary may be a mix of colours that lacks a
component (`boundary_tells_unless_hollow`).  Everything else is read or refused by name.
-/

namespace Style

/--
A definition that holds a hollow mix where a colour is read, behind words that define a style.
-/
inductive Hollow (definition : Text) : Prop where
  | background {before rest : List Text} {word mix : Text} {middle : Style}
      (shape : Text.words definition = before ++ word :: mix :: rest)
      (defines : applyWords null before = .ok middle)
      (isOn : Text.lower word = "on".toList)
      (hollow : Colour.HollowMix mix)
  | foreground {before rest : List Text} {word : Text} {middle : Style}
      (shape : Text.words definition = before ++ word :: rest)
      (defines : applyWords null before = .ok middle)
      (names : NamesColour word)
      (hollow : Colour.HollowMix (Text.lower word))

section

variable {definition : Text}

/-- The word `none` alone is no hollow mix. -/
theorem Hollow.not_none
    (hollow : Hollow definition) :
    Text.trim definition ≠ "none".toList := by
  intro isNone
  have isShape : Text.words definition = ["none".toList] := by
    rw [← Text.words_trim, isNone]
    rfl
  cases hollow with
  | background shape =>
      have lengths := congrArg List.length (isShape.symm.trans shape)
      simp only [List.length_nil, List.length_append, List.length_cons] at lengths
      omega
  | foreground shape _ _ hollow =>
      rcases List.singleton_eq_append_iff.mp (isShape.symm.trans shape) with
        ⟨_, same⟩ | ⟨_, impossible⟩
      · rcases List.cons.inj same with ⟨rfl, _⟩
        rcases hollow with ⟨red, green, blue, isMix, _⟩
        have isNoMix : Text.lower (Text.lower "none".toList) = "none".toList := by
          decide +kernel
        cases isNoMix.symm.trans isMix
      · cases impossible

/-- Only the component of a mix of colours makes a fault of a definition numeric. -/
theorem component?_eq_some_iff
    {fault : StyleFault}
    {part : Text} :
    TracingFields.component? fault = some part ↔
      (∃ word, fault = .badBackground word (.notInteger part)) ∨
        ∃ word, fault = .badColour word (.notInteger part) := by
  unfold TracingFields.component?
  split <;> simp_all

/-- A definition fails over a number when reading it comes to a hollow mix. -/
theorem define_component_iff
    {part : Text} :
    (∃ fault, define definition = .error fault ∧
        TracingFields.component? fault = some part) ↔
      part = [] ∧ Hollow definition := by
  have free (before : List Text) {rest : List Text} {word : Text}
      (shape : Text.words definition = before ++ word :: rest) : Text.BlankFree word :=
    Text.blankFree_of_mem_words (by rw [shape]; exact List.mem_append_right _ List.mem_cons_self)
  constructor
  · rintro ⟨fault, fails, isPart⟩
    unfold define at fails
    split at fails
    · cases fails
    · rcases applyWords_eq_error_iff.mp fails with ⟨before, rest, middle, shape, defines, stops⟩
      rcases component?_eq_some_iff.mp isPart with ⟨word, rfl⟩ | ⟨word, rfl⟩
      · cases stops with
        | background isOn noColour =>
            have mixFree := free (before ++ [_]) (by rw [shape, List.append_assoc]; rfl)
            rcases (Colour.read_eq_notInteger_iff mixFree).mp noColour with ⟨isEmpty, hollow⟩
            exact ⟨isEmpty, .background shape defines isOn hollow⟩
      · cases stops with
        | foreground names noColour =>
            have lowerFree := Text.blankFree_lower (free before shape)
            rcases (Colour.read_eq_notInteger_iff lowerFree).mp noColour with ⟨isEmpty, hollow⟩
            exact ⟨isEmpty, .foreground shape defines names hollow⟩
  · rintro ⟨rfl, hollow⟩
    have defines : define definition = applyWords null (Text.words definition) := by
      unfold define
      rw [if_neg hollow.not_none]
    rw [defines]
    cases hollow with
    | @background before rest word mix middle shape defines isOn hollow =>
        have mixFree := free (before ++ [word]) (by rw [shape, List.append_assoc]; rfl)
        have noColour := (Colour.read_eq_notInteger_iff mixFree).mpr ⟨rfl, hollow⟩
        exact ⟨_, applyWords_eq_error_iff.mpr ⟨before, _, middle, shape, defines,
          .background isOn noColour⟩, rfl⟩
    | @foreground before rest word middle shape defines names hollow =>
        have lowerFree := Text.blankFree_lower (free before shape)
        have noColour := (Colour.read_eq_notInteger_iff lowerFree).mpr ⟨rfl, hollow⟩
        exact ⟨_, applyWords_eq_error_iff.mpr ⟨before, _, middle, shape, defines,
          .foreground names noColour⟩, rfl⟩

end

end Style

namespace Settings

/--
Settings that are read as they should be, or refused with a fault that names one of them,
unless there is a cause: then reading them fails over a number.
-/
structure TellsUnless {α : Type}
    (cause : Prop)
    (good : α → Prop)
    (result : Except SettingsFault α) : Prop where
  told : ¬ cause →
    (∃ value, result = .ok value ∧ good value) ∨
      ∃ fault, result = .error fault ∧ fault.isNumeric = false
  escaped : cause → ∃ fault, result = .error fault ∧ fault.isNumeric = true

/-- Reading fails over a number. -/
def FailsNumerically {α : Type} (result : Except SettingsFault α) : Prop :=
  ∃ fault, result = .error fault ∧ fault.isNumeric = true

theorem not_failsNumerically_ok
    {α : Type}
    (value : α) :
    ¬ FailsNumerically (.ok value) := by
  rintro ⟨fault, fails, _⟩
  cases fails

/-- A fault that names a setting is not over a number. -/
theorem not_failsNumerically_error
    {α : Type}
    {fault : SettingsFault}
    (names : fault.isNumeric = false) :
    ¬ FailsNumerically (.error fault : Except SettingsFault α) := by
  rintro ⟨other, fails, numeric⟩
  cases fails
  rw [names] at numeric
  cases numeric

/-- What fails numerically exactly in one case tells unless it is the case. -/
theorem TellsUnless.of_iff
    {α : Type}
    {cause : Prop}
    {good : α → Prop}
    {result : Except SettingsFault α}
    (exactly : FailsNumerically result ↔ cause)
    (isGood : ∀ value, result = .ok value → good value) :
    TellsUnless cause good result := by
  refine ⟨fun never => ?_, exactly.mpr⟩
  cases outcome : result with
  | ok value => exact .inl ⟨value, rfl, isGood value outcome⟩
  | error fault =>
      cases numeric : fault.isNumeric with
      | false => exact .inr ⟨fault, rfl, numeric⟩
      | true => exact (never (exactly.mp ⟨fault, outcome, numeric⟩)).elim

/-- Two steps fail numerically where the first one does, or the second one behind it. -/
theorem failsNumerically_bind_iff
    {α β : Type}
    {first : Except SettingsFault α}
    {next : α → Except SettingsFault β} :
    FailsNumerically (first >>= next) ↔
      FailsNumerically first ∨ ∃ middle, first = .ok middle ∧ FailsNumerically (next middle) := by
  constructor
  · rintro ⟨fault, fails, numeric⟩
    rcases bind_eq_error fails with fails | ⟨middle, isMiddle, fails⟩
    · exact .inl ⟨fault, fails, numeric⟩
    · exact .inr ⟨middle, isMiddle, fault, fails, numeric⟩
  · rintro (⟨fault, rfl, numeric⟩ | ⟨middle, rfl, fault, fails, numeric⟩)
    · exact ⟨fault, rfl, numeric⟩
    · exact ⟨fault, fails, numeric⟩

/-- An entry that looks like a number and spells none. -/
def MisreadEntry (inner : Value.Entries Empty) (key : String) : Prop :=
  ∃ t, Value.get? key inner = some (.text t) ∧ Text.Misread t

section

variable {inner : Value.Entries Empty} {key : String}

/-- A cap is refused while it is read only if a text is misread. -/
theorem number_eq_error_iff
    {n : Int}
    {fault : SettingsFault} :
    number inner key (.int n) = .error fault ↔
      ∃ t, Value.get? key inner = some (.text t) ∧ Text.Misread t ∧ fault = .digits t := by
  unfold number
  cases entry : Value.get? key inner with
  | none => simp
  | some value =>
      rw [Option.getD_some]
      cases value with
      | text t =>
          simp only [Option.some.injEq, Value.text.injEq, exists_eq_left', Text.misread_iff]
          split
          · next digits =>
              cases spells : Text.decimal? (Text.trimNumber t) with
              | none => simp [digits, eq_comm]
              | some n => simp
          · next digits => simp [digits]
      | _ => simp

/-- A cap fails numerically exactly when its entry is misread. -/
theorem failsNumerically_number_iff
    {n : Int} :
    FailsNumerically (number inner key (.int n)) ↔ MisreadEntry inner key := by
  constructor
  · rintro ⟨fault, fails, _⟩
    rcases number_eq_error_iff.mp fails with ⟨t, entry, misread, _⟩
    exact ⟨t, entry, misread⟩
  · rintro ⟨t, entry, misread⟩
    exact ⟨.digits t, number_eq_error_iff.mpr ⟨t, entry, misread, rfl⟩, rfl⟩

/-- A switch is never refused numerically. -/
theorem not_failsNumerically_switch
    (standard : Bool) :
    ¬ FailsNumerically (switch inner key standard) := by
  unfold switch
  split
  · exact not_failsNumerically_ok _
  · split
    · exact not_failsNumerically_ok _
    · exact not_failsNumerically_error rfl
  · exact not_failsNumerically_error rfl

theorem not_failsNumerically_checkCap
    (found : Datum) :
    ¬ FailsNumerically (SpacingFields.checkCap key found) := by
  unfold SpacingFields.checkCap
  split
  · split
    · exact not_failsNumerically_ok _
    · exact not_failsNumerically_error rfl
  · exact not_failsNumerically_error rfl

theorem not_failsNumerically_checkSpacing
    (fields : SpacingFields) :
    ¬ FailsNumerically fields.check := by
  unfold SpacingFields.check
  simp only [failsNumerically_bind_iff, not_failsNumerically_checkCap, false_or]
  rintro ⟨_, _, _, _, _, _, fails⟩
  exact not_failsNumerically_ok _ fails

/-- A number is read, or it is misread. -/
theorem misreadEntry_or_exists
    (inner : Value.Entries Empty)
    (key : String)
    (n : Int) :
    MisreadEntry inner key ∨ ∃ found, number inner key (.int n) = .ok found := by
  cases outcome : number inner key (.int n) with
  | ok found => exact .inr ⟨found, rfl⟩
  | error fault =>
      rcases number_eq_error_iff.mp outcome with ⟨t, entry, misread, _⟩
      exact .inl ⟨t, entry, misread⟩

/-- The spacing of a section fails over a number when a cap is misread. -/
theorem failsNumerically_spacingOf_iff :
    FailsNumerically (spacingOf inner) ↔ ∃ key ∈ capKeys, MisreadEntry inner key := by
  unfold spacingOf
  simp only [failsNumerically_bind_iff, failsNumerically_number_iff,
    not_failsNumerically_switch, not_failsNumerically_checkSpacing, and_false, exists_false,
    or_false, capKeys, List.mem_cons, List.not_mem_nil, exists_eq_or_imp, exists_eq_left]
  constructor
  · rintro (first | ⟨_, _, second | ⟨_, _, third⟩⟩)
    · exact .inl first
    · exact .inr (.inl second)
    · exact .inr (.inr third)
  · intro misread
    rcases misreadEntry_or_exists inner SpacingFields.capKey 2 with first | ⟨cap, isCap⟩
    · exact .inl first
    rcases misreadEntry_or_exists inner SpacingFields.capAfterOpenKey 1 with
      second | ⟨capAfterOpen, isCapAfterOpen⟩
    · exact .inr ⟨cap, isCap, .inl second⟩
    rcases misread with first | second | third
    · exact .inl first
    · exact .inr ⟨cap, isCap, .inl second⟩
    · exact .inr ⟨cap, isCap, .inr ⟨capAfterOpen, isCapAfterOpen, third⟩⟩

/-- Settings of debug rendering with a known colour system and a boundary that is hollow. -/
def HollowBoundary (fields : TracingFields) : Prop :=
  (∃ system, ColourSystem.ofName? (String.ofList fields.system) = some system) ∧
    Style.Hollow fields.definition

/-- A boundary is refused numerically exactly when a component of a mix is to blame. -/
theorem isNumeric_boundaryFault
    (definition : Text)
    (why : StyleFault) :
    (TracingFields.boundaryFault definition why).isNumeric =
      (TracingFields.component? why).isSome := by
  unfold TracingFields.boundaryFault
  cases TracingFields.component? why <;> rfl

/-- The settings of debug rendering fail over a number when the boundary is a hollow mix. -/
theorem failsNumerically_checkTracing_iff
    (fields : TracingFields) :
    FailsNumerically fields.check ↔ HollowBoundary fields := by
  have hollowIff :
      Style.Hollow fields.definition ↔
        ∃ why, Style.define fields.definition = .error why ∧
          (TracingFields.component? why).isSome = true := by
    constructor
    · intro hollow
      rcases Style.define_component_iff.mpr ⟨rfl, hollow⟩ with ⟨why, fails, isPart⟩
      exact ⟨why, fails, by rw [isPart]; rfl⟩
    · rintro ⟨why, fails, hasPart⟩
      rcases Option.isSome_iff_exists.mp hasPart with ⟨part, isPart⟩
      exact (Style.define_component_iff.mp ⟨why, fails, isPart⟩).2
  unfold HollowBoundary TracingFields.check
  rw [hollowIff]
  cases known : ColourSystem.ofName? (String.ofList fields.system) with
  | none =>
      refine iff_of_false (not_failsNumerically_error rfl) ?_
      rintro ⟨⟨system, same⟩, _⟩
      cases same
  | some system =>
      dsimp only
      split
      · next why fails =>
          simp [FailsNumerically, fails, isNumeric_boundaryFault]
      · next boundary defines =>
          simp [FailsNumerically, defines]

/-- The fields of debug rendering that a section gives. -/
def tracingFields (inner : Value.Entries Empty) : TracingFields where
  legendTitle := shown inner TracingFields.legendTitleKey Tracing.standard.legendTitle
  system := shown inner TracingFields.systemKey Tracing.standard.system.name.toList
  definition := shown inner TracingFields.definitionKey Tracing.standard.definition

/-- Debug settings fail numerically exactly when their boundary is hollow. -/
theorem failsNumerically_tracingOf_iff :
    FailsNumerically (tracingOf inner) ↔ HollowBoundary (tracingFields inner) :=
  failsNumerically_checkTracing_iff (tracingFields inner)

/-- Finding a section never fails numerically. -/
theorem not_failsNumerically_sectionEntries
    (entries : Value.Entries Empty)
    (name : String) :
    ¬ FailsNumerically (sectionEntries entries name) := by
  unfold sectionEntries
  split
  · exact not_failsNumerically_ok _
  · exact not_failsNumerically_ok _
  · split
    · exact not_failsNumerically_error rfl
    · exact not_failsNumerically_ok _

end

/-- A configuration fails over a number: in a cap, or with all caps in order, in its boundary. -/
theorem failsNumerically_ofEntries_iff
    {entries : Value.Entries Empty} :
    FailsNumerically (ofEntries entries) ↔
      (∃ inner, Section entries spacingSection inner ∧
        ∃ key ∈ capKeys, MisreadEntry inner key) ∨
      ((∃ inner spacing, Section entries spacingSection inner ∧ DescribesSpacing inner spacing) ∧
        ∃ inner, Section entries tracingSection inner ∧ HollowBoundary (tracingFields inner)) := by
  unfold ofEntries
  simp only [failsNumerically_bind_iff, not_failsNumerically_sectionEntries,
    failsNumerically_spacingOf_iff, failsNumerically_tracingOf_iff, sectionEntries_eq_ok_iff,
    spacingOf_eq_ok_iff, false_or]
  constructor
  · rintro ⟨inner, isSection, misread | ⟨spacing, isSpacing, tracing, alsoSection, fails⟩⟩
    · exact .inl ⟨inner, isSection, misread⟩
    · rcases fails with hollow | ⟨_, _, fails⟩
      · exact .inr ⟨⟨inner, spacing, isSection, isSpacing⟩, tracing, alsoSection, hollow⟩
      · exact (not_failsNumerically_ok _ fails).elim
  · rintro (⟨inner, isSection, misread⟩ |
      ⟨⟨inner, spacing, isSection, isSpacing⟩, tracing, alsoSection, hollow⟩)
    · exact ⟨inner, isSection, .inl misread⟩
    · exact ⟨inner, isSection, .inr ⟨spacing, isSpacing, tracing, alsoSection, .inl hollow⟩⟩

section

variable (environment : Environment) (entries : Value.Entries Empty)

/-- With its variables replaced, a configuration has a cap that is misread. -/
def MisreadsCap : Prop :=
  ∃ replaced inner, environment.substituteEntries entries = .ok replaced ∧
    Section replaced spacingSection inner ∧ ∃ key ∈ capKeys, MisreadEntry inner key

/-- With its variables replaced, a configuration has spacing rules and a hollow boundary. -/
def HollowsBoundary : Prop :=
  ∃ replaced, environment.substituteEntries entries = .ok replaced ∧
    (∃ inner spacing, Section replaced spacingSection inner ∧ DescribesSpacing inner spacing) ∧
    ∃ inner, Section replaced tracingSection inner ∧ HollowBoundary (tracingFields inner)

/-- What is loaded is described by the configuration with its variables replaced. -/
theorem describes_of_load
    {settings : Settings}
    (loads : load environment entries = .ok settings) :
    ∃ replaced, environment.substituteEntries entries = .ok replaced ∧
      Describes replaced settings := by
  unfold load at loads
  split at loads
  · cases loads
  · next replaced isReplaced => exact ⟨replaced, isReplaced, ofEntries_eq_ok_iff.mp loads⟩

/-- Loading fails numerically exactly when a cap is misread or the boundary is hollow. -/
theorem failsNumerically_load_iff :
    FailsNumerically (load environment entries) ↔
      MisreadsCap environment entries ∨ HollowsBoundary environment entries := by
  unfold load MisreadsCap HollowsBoundary
  cases environment.substituteEntries entries with
  | error name =>
      refine iff_of_false (not_failsNumerically_error rfl) ?_
      rintro (⟨_, _, fails, _⟩ | ⟨_, fails, _⟩) <;> cases fails
  | ok replaced =>
      simp only [failsNumerically_ofEntries_iff, Except.ok.injEq, exists_and_left, exists_eq_left']

end

section

variable {environment : Environment} {entries : Value.Entries Empty}

/-- The standard boundary is no hollow mix. -/
theorem not_hollowBoundary_standard : ¬ HollowBoundary (tracingFields []) := by
  rintro ⟨_, hollow⟩
  rcases Style.define_component_iff.mpr ⟨rfl, hollow⟩ with ⟨why, fails, _⟩
  cases fails.symm.trans Tracing.standard.define_definition

/-- A section that is missing has no entries. -/
theorem Section.eq_nil_of_missing
    {name : String}
    {inner : Value.Entries Empty}
    (described : Section entries name inner)
    (missing : Value.get? name entries = none) :
    inner = [] := by
  rcases described with _ | ⟨entry, _⟩ | entry
  · rfl
  · rfl
  · cases missing.symm.trans entry

/-- Without a section for spacing no cap is misread. -/
theorem not_misreadsCap_of_missing
    (noSpacing : Value.get? spacingSection entries = none) :
    ¬ MisreadsCap environment entries := by
  rintro ⟨replaced, inner, isReplaced, described, key, _, t, entry, _⟩
  rw [described.eq_nil_of_missing (environment.get?_substituteEntries isReplaced noSpacing)]
    at entry
  cases entry

/-- Without a section for debug rendering no boundary is hollow. -/
theorem not_hollowsBoundary_of_missing
    (noTracing : Value.get? tracingSection entries = none) :
    ¬ HollowsBoundary environment entries := by
  rintro ⟨replaced, isReplaced, _, inner, described, hollow⟩
  rw [described.eq_nil_of_missing (environment.get?_substituteEntries isReplaced noTracing)]
    at hollow
  exact not_hollowBoundary_standard hollow

/--
A configuration without settings of debug rendering gives caps that are positive, or is
refused with a fault that names a setting, unless one of its caps is misread.
-/
theorem load_tells_unless_misread
    (environment : Environment)
    {entries : Value.Entries Empty}
    (noTracing : Value.get? tracingSection entries = none) :
    TellsUnless (MisreadsCap environment entries)
      (fun settings =>
        (0 < settings.spacing.cap ∧ 0 < settings.spacing.capAfterOpen ∧
          0 < settings.spacing.capBeforeClose) ∧
        ∃ replaced, environment.substituteEntries entries = .ok replaced ∧
          Describes replaced settings)
      (load environment entries) := by
  refine .of_iff ?_ fun settings loads => ?_
  · rw [failsNumerically_load_iff, or_iff_left (not_hollowsBoundary_of_missing noTracing)]
  · exact ⟨⟨settings.spacing.cap_pos, settings.spacing.capAfterOpen_pos,
      settings.spacing.capBeforeClose_pos⟩, describes_of_load environment entries loads⟩

/-- A configuration that gives one cap, by a variable. -/
def variableCap : Value.Entries Empty :=
  [(.text spacingSection.toList, .dict [
      (.text SpacingFields.capKey.toList, .text "$\x7bCAP\x7d".toList)])]

/-- A value for the variable. -/
def capIs (t : Text) : Environment :=
  [("CAP".toList, t)]

/-- The cap of the example takes the value of its variable. -/
theorem substituteEntries_variableCap
    (t : Text) :
    (capIs t).substituteEntries variableCap =
      .ok [(.text spacingSection.toList, .dict [
        (.text SpacingFields.capKey.toList, .text t)])] := by
  have mentioned : mentions "$\x7bCAP\x7d".toList = [.reference "CAP".toList] := by
    decide +kernel
  have expanded : (capIs t).expandAll [.reference "CAP".toList] = .ok t := by
    have given : (capIs t).expand (.reference "CAP".toList) = .ok t := rfl
    simp only [Environment.expandAll, given, bind, Except.bind, pure, Except.pure,
      List.append_nil]
  simp only [variableCap, Environment.substituteEntries, Environment.substitute, mentioned,
    expanded, Except.map, bind, Except.bind, pure, Except.pure]

/-- The cap of the example is misread exactly when the value of its variable is. -/
theorem misreadsCap_variableCap_iff
    {t : Text} :
    MisreadsCap (capIs t) variableCap ↔ Text.Misread t := by
  constructor
  · rintro ⟨replaced, inner, isReplaced, described, key, member, other, entry, misread⟩
    cases (substituteEntries_variableCap t).symm.trans isReplaced
    cases described.eq_of_mapping rfl
    simp only [capKeys, List.mem_cons, List.not_mem_nil, or_false] at member
    rcases member with rfl | rfl | rfl
    · cases entry
      exact misread
    · cases entry
    · cases entry
  · intro misread
    exact ⟨_, _, substituteEntries_variableCap t, .mapping rfl, SpacingFields.capKey,
      List.mem_cons_self, t, rfl, misread⟩

theorem misread_superscript : Text.Misread "²".toList where
  digits := by decide +kernel
  flaw := .inl ⟨'²', by decide, by decide +kernel, by decide +kernel⟩

/-- A cap from a variable is read with blanks around it, and a superscript fails numerically. -/
theorem load_tells_variableCap :
    Value.get? tracingSection variableCap = none ∧
    ((∃ settings, load (capIs " 3 ".toList) variableCap = .ok settings ∧
        0 < settings.spacing.cap) ∨
      ∃ fault, load (capIs " 3 ".toList) variableCap = .error fault ∧
        fault.isNumeric = false) ∧
    FailsNumerically (load (capIs "²".toList) variableCap) := by
  have noTracing : Value.get? tracingSection variableCap = none := rfl
  have reads : ¬ MisreadsCap (capIs " 3 ".toList) variableCap := by
    rw [misreadsCap_variableCap_iff, Text.misread_iff]
    decide +kernel
  refine ⟨noTracing, ?_, ?_⟩
  · rcases (load_tells_unless_misread _ noTracing).told reads with
      ⟨settings, loads, positive, _⟩ | refused
    · exact .inl ⟨settings, loads, positive.1⟩
    · exact .inr refused
  · exact (load_tells_unless_misread _ noTracing).escaped
      (misreadsCap_variableCap_iff.mpr misread_superscript)

/-- A cap that is a superscript is refused with a fault that names no setting. -/
theorem load_superscript :
    load (capIs "²".toList) variableCap = .error (.digits "²".toList) ∧
    (SettingsFault.digits "²".toList).isNumeric = true := by
  refine ⟨?_, rfl⟩
  have fails : number [(.text SpacingFields.capKey.toList, .text "²".toList)]
      SpacingFields.capKey (.int 2) = .error (.digits "²".toList) :=
    number_eq_error_iff.mpr ⟨_, rfl, misread_superscript, rfl⟩
  have isSection : sectionEntries [(.text spacingSection.toList, .dict [
      (.text SpacingFields.capKey.toList, .text "²".toList)])] spacingSection =
        .ok [(.text SpacingFields.capKey.toList, .text "²".toList)] := rfl
  unfold load
  rw [substituteEntries_variableCap]
  simp only [ofEntries, isSection, spacingOf, fails, bind, Except.bind]

/--
Settings of debug rendering have the style that their definition defines, or are refused
with a fault that names a setting, unless the definition comes to a hollow mix.  The same
holds of the settings of a configuration, when none of its caps is misread.
-/
theorem boundary_tells_unless_hollow
    (fields : TracingFields) :
    TellsUnless (HollowBoundary fields)
        (fun tracing => tracing.definition = fields.definition ∧
          Style.define fields.definition = .ok tracing.boundary)
        fields.check ∧
      ∀ (environment : Environment) (entries : Value.Entries Empty),
        ¬ MisreadsCap environment entries →
          TellsUnless (HollowsBoundary environment entries)
            (fun settings =>
              Style.define settings.tracing.definition = .ok settings.tracing.boundary)
            (load environment entries) := by
  constructor
  · refine .of_iff (failsNumerically_checkTracing_iff fields) fun tracing checks => ?_
    rcases checkTracing_eq_ok_iff.mp checks with ⟨_, _, sameDefinition⟩
    refine ⟨sameDefinition.symm, ?_⟩
    rw [sameDefinition]
    exact tracing.define_definition
  · intro environment entries capsRead
    refine .of_iff ?_ fun settings _ => settings.tracing.define_definition
    rw [failsNumerically_load_iff, or_iff_right capsRead]

/-- A configuration that gives nothing but a boundary. -/
def boundaryIs (definition : Text) : Value.Entries Empty :=
  [(.text tracingSection.toList, .dict [
      (.text TracingFields.definitionKey.toList, .text definition)])]

/-- A boundary without a dollar sign is not touched by the environment. -/
theorem substituteEntries_boundaryIs
    (environment : Environment)
    {definition : Text}
    (free : '$' ∉ definition) :
    environment.substituteEntries (boundaryIs definition) = .ok (boundaryIs definition) := by
  refine environment.substituteEntries_of_unmentioned _ ?_
  simp only [boundaryIs, Value.mentionedInEntries, Value.mentionedNames,
    names_mentions_of_no_dollar free, List.append_nil]

/-- Only the definition decides whether a boundary is hollow. -/
theorem hollowsBoundary_boundaryIs_iff
    {definition : Text}
    (free : '$' ∉ definition) :
    HollowsBoundary environment (boundaryIs definition) ↔ Style.Hollow definition := by
  constructor
  · rintro ⟨replaced, isReplaced, _, inner, described, _, hollow⟩
    cases (substituteEntries_boundaryIs environment free).symm.trans isReplaced
    cases described.eq_of_mapping rfl
    exact hollow
  · intro hollow
    refine ⟨_, substituteEntries_boundaryIs environment free, ?_, _, .mapping rfl,
      ⟨.eightBit, rfl⟩, hollow⟩
    exact ⟨[], Spacing.standard, .absent rfl, .standard rfl, .standard rfl, .standard rfl,
      .standard rfl⟩

theorem hollow_emptyMix : Style.Hollow "rgb(,,)".toList := by
  have isMix : Text.lower "rgb(,,)".toList = "rgb(,,)".toList := by decide +kernel
  have shape : Text.words "rgb(,,)".toList = [] ++ "rgb(,,)".toList :: [] := by decide +kernel
  have names : Style.NamesColour "rgb(,,)".toList := by
    constructor <;> rw [isMix] <;> decide
  refine .foreground shape rfl names ?_
  rw [isMix]
  exact ⟨[], [], [], isMix, by simp, by simp⟩

theorem not_hollow_compound : ¬ Style.Hollow "bold red on rgb(1,2,3)".toList := by
  intro hollow
  rcases Style.define_component_iff.mpr ⟨rfl, hollow⟩ with ⟨why, fails, _⟩
  have defines : (Style.define "bold red on rgb(1,2,3)".toList).toOption.isSome = true := by
    decide +kernel
  rw [fails] at defines
  cases defines

/-- The fields of debug rendering with a boundary. -/
def boundaryFields (definition : Text) : TracingFields where
  definition := definition

/-- A definition of several words is read, and a mix without components fails numerically. -/
theorem boundary_tells_compound :
    ((∃ tracing, (boundaryFields "bold red on rgb(1,2,3)".toList).check = .ok tracing ∧
        Style.define "bold red on rgb(1,2,3)".toList = .ok tracing.boundary) ∨
      ∃ fault, (boundaryFields "bold red on rgb(1,2,3)".toList).check = .error fault ∧
        fault.isNumeric = false) ∧
    ¬ MisreadsCap [] (boundaryIs "rgb(,,)".toList) ∧
    FailsNumerically (load [] (boundaryIs "rgb(,,)".toList)) := by
  have capsRead : ¬ MisreadsCap [] (boundaryIs "rgb(,,)".toList) :=
    not_misreadsCap_of_missing rfl
  rcases boundary_tells_unless_hollow (boundaryFields "bold red on rgb(1,2,3)".toList) with
    ⟨checks, loads⟩
  refine ⟨?_, capsRead, ?_⟩
  · rcases checks.told fun hollow => not_hollow_compound hollow.2 with
      ⟨tracing, isTracing, _, defines⟩ | refused
    · exact .inl ⟨tracing, isTracing, defines⟩
    · exact .inr refused
  · exact (loads [] _ capsRead).escaped
      ((hollowsBoundary_boundaryIs_iff (by decide)).mpr hollow_emptyMix)

/-- A boundary that is an empty mix is refused with a fault that names no setting. -/
theorem check_emptyMix :
    (boundaryFields "rgb(,,)".toList).check = .error (.component []) ∧
    (SettingsFault.component []).isNumeric = true := by
  refine ⟨?_, rfl⟩
  rcases Style.define_component_iff.mpr ⟨rfl, hollow_emptyMix⟩ with ⟨why, fails, isPart⟩
  have known : ColourSystem.ofName? (String.ofList (boundaryFields "rgb(,,)".toList).system) =
      some .eightBit := rfl
  unfold TracingFields.check
  rw [known]
  dsimp only
  split
  · next other alsoFails =>
      cases fails.symm.trans alsoFails
      simp only [TracingFields.boundaryFault, isPart]
  · next boundary defines => cases fails.symm.trans defines

end

end Settings

end Splice
