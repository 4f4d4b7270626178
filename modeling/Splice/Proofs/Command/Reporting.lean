import Splice.Command.Run
import Splice.Proofs.Inversion
import Splice.Proofs.Record.Lines

namespace Splice.Command

/-!
# What a command says when it fails

A command that renders or checks a template ends well, or tells how it is called, or fails
and says so: the last thing on the error stream is then the record of an error.  It stops
without a word in a few cases, all of which lie in the files that it reads.  The bytes of a
template or of a configuration may be no text in UTF-8; the configuration that is found may
be a directory; a value in it may look like a number, a date or a truth value without
being one; and it may hold itself.  `Stumbles` lists these cases, and a command stops without
a word in them and in no others.

A configuration may escape half of a surrogate pair, which is no character; a text that would
hold one is left out (`WithoutHalves`).
-/

/-- A command that ends well, tells how it is called, or closes with the record of an error. -/
inductive Outcome.Reported : Outcome → Prop where
  | usage : Reported .usage
  | help : Reported .help
  | done (output errors : Text) : Reported (.ended 0 output errors)
  | failed (output before : Text) {line : Text} (isError : IsErrorLine line) :
      Reported (.ended 1 output (before ++ (line ++ ['\n'])))

/-- A command that stops without a word. -/
def Outcome.Escaped (outcome : Outcome) : Prop :=
  ∃ crash output errors, outcome = .crashed crash output errors

/-- A command that says how it went, unless something is the case; then it stops without a word. -/
structure Outcome.TellsUnless (cause : Prop) (outcome : Outcome) : Prop where
  reported : ¬ cause → outcome.Reported
  escaped : cause → outcome.Escaped

/-- A console that was set up by switches, at a time. -/
structure Console.Ready (console : Console) : Prop where
  recorder : ∃ flags, console.recorder = Recorder.configure flags
  time : Moment.IsTime console.now

namespace Console.Ready

variable {console : Console}

theorem record
    (ready : console.Ready)
    (source : String)
    (level : Level)
    (message : String)
    (data : Value.Entries Empty) :
    (console.record source level message data).Ready := by
  unfold Console.record
  dsimp only
  split
  · exact ⟨ready.recorder, ready.time⟩
  · exact ready

theorem say
    (ready : console.Ready)
    (level : Level)
    (message : String) :
    (console.say level message).Ready :=
  ready.record _ level message []

theorem put
    (ready : console.Ready)
    (text : Text) :
    (console.put text).Ready :=
  ⟨ready.recorder, ready.time⟩

theorem line
    (ready : console.Ready)
    (text : Text) :
    (console.line text).Ready :=
  ready.put _

/-- What keeps a console ready does so any number of times. -/
theorem foldl
    {α : Type}
    {step : Console → α → Console}
    (keeps : ∀ {console}, console.Ready → ∀ item, (step console item).Ready)
    (ready : console.Ready)
    (items : List α) :
    (items.foldl step console).Ready := by
  induction items generalizing console with
  | nil => exact ready
  | cons item rest inductionHypothesis => exact inductionHypothesis (keeps ready item)

theorem notes
    (ready : console.Ready)
    (found : List Note) :
    (console.notes found).Ready :=
  ready.foldl (fun ready _ => ready.record _ _ _ _) found

end Console.Ready

section

variable {surroundings : Surroundings} {operand : Text} {console : Console}

end

/-- Faults of a configuration that a command does not say. -/
inductive Unsaid : SourceFault → Prop where
  | directory : Unsaid .directory
  | encoding : Unsaid .encoding
  | content {fault : Yaml.Fault}
      (formed : fault ≠ .malformed)
      (whole : fault ≠ .surrogate) :
      Unsaid (.content fault)
  | number {fault : SettingsFault} (isNumeric : fault.isNumeric = true) : Unsaid (.settings fault)

/-- A configuration file that gives no settings, in a way that a command does not say. -/
inductive Unreadable (workspace : Workspace) (environment : Environment) (path : Path) : Prop where
  | directory (there : workspace.at? path = some .directory)
  | encoding {content : List UInt8}
      (there : workspace.at? path = some (.file content))
      (noText : Entry.text? content = none)
  | content {text : Text} {fault : Yaml.Fault}
      (reads : workspace.read path = .ok text)
      (refused : Yaml.load text = .error fault)
      (formed : fault ≠ .malformed)
      (whole : fault ≠ .surrogate)
  | endless {text : Text} {content : Yaml.Content} {entries replaced : Value.Entries Empty}
      (reads : workspace.read path = .ok text)
      (holds : Yaml.load text = .ok content)
      (isMapping : Workspace.configEntries path content.value = .ok entries)
      (isEndless : content.isEndless = true)
      (replaces : environment.substituteEntries entries = .ok replaced)
  | number {text : Text} {content : Yaml.Content} {entries : Value.Entries Empty}
      {fault : SettingsFault}
      (reads : workspace.read path = .ok text)
      (holds : Yaml.load text = .ok content)
      (isMapping : Workspace.configEntries path content.value = .ok entries)
      (ends : content.isEndless = false)
      (refused : Settings.load environment entries = .error fault)
      (isNumeric : fault.isNumeric = true)

section

variable {workspace : Workspace} {environment : Environment} {path : Path}

/-- A file that is refused without a word while it is read is no file or no text. -/
theorem unreadable_of_read
    {fault : SourceFault}
    (refused : workspace.read path = .error fault)
    (unsaid : Unsaid fault) :
    Unreadable workspace environment path := by
  unfold Workspace.read at refused
  split at refused
  · cases refused
    cases unsaid
  · next there => exact .directory there
  · next content there =>
      split at refused
      · next noText => exact .encoding there noText
      · cases refused

/-- A file without a mapping is a fault that is said. -/
theorem not_unsaid_of_configEntries
    {value : Datum}
    {fault : SourceFault}
    (refused : Workspace.configEntries path value = .error fault) :
    ¬ Unsaid fault := by
  unfold Workspace.configEntries at refused
  split at refused
  · cases refused
  · split at refused
    · cases refused
      rintro (_ | _ | _ | numeric)
      cases numeric
    · cases refused

/-- A configuration that holds itself is given up without a word, unless a variable is missing. -/
theorem exists_of_unsaid_endlessFault
    {entries : Value.Entries Empty}
    (unsaid : Unsaid (Workspace.endlessFault environment entries)) :
    ∃ replaced, environment.substituteEntries entries = .ok replaced := by
  unfold Workspace.endlessFault at unsaid
  split at unsaid
  · rcases unsaid with _ | _ | _ | numeric
    cases numeric
  · next replaced replaces => exact ⟨replaced, replaces⟩

/-- The steps of loading a file at which it may be refused, in their order. -/
inductive Refusal (workspace : Workspace) (environment : Environment) (path : Path) :
    SourceFault → Prop where
  | read {fault : SourceFault}
      (refused : workspace.read path = .error fault) :
      Refusal workspace environment path fault
  | content {text : Text} {fault : Yaml.Fault}
      (reads : workspace.read path = .ok text)
      (refused : Yaml.load text = .error fault) :
      Refusal workspace environment path (.content fault)
  | entries {text : Text} {content : Yaml.Content} {fault : SourceFault}
      (reads : workspace.read path = .ok text)
      (holds : Yaml.load text = .ok content)
      (refused : Workspace.configEntries path content.value = .error fault) :
      Refusal workspace environment path fault
  | endless {text : Text} {content : Yaml.Content} {entries : Value.Entries Empty}
      (reads : workspace.read path = .ok text)
      (holds : Yaml.load text = .ok content)
      (isMapping : Workspace.configEntries path content.value = .ok entries)
      (isEndless : content.isEndless = true) :
      Refusal workspace environment path (Workspace.endlessFault environment entries)
  | settings {text : Text} {content : Yaml.Content} {entries : Value.Entries Empty}
      {fault : SettingsFault}
      (reads : workspace.read path = .ok text)
      (holds : Yaml.load text = .ok content)
      (isMapping : Workspace.configEntries path content.value = .ok entries)
      (ends : content.isEndless = false)
      (refused : Settings.load environment entries = .error fault) :
      Refusal workspace environment path (.settings fault)

/-- A file that is refused without a word is unreadable. -/
theorem Refusal.unreadable
    {fault : SourceFault}
    (refusal : Refusal workspace environment path fault)
    (unsaid : Unsaid fault) :
    Unreadable workspace environment path := by
  cases refusal with
  | read refused => exact unreadable_of_read refused unsaid
  | content reads refused =>
      cases unsaid with
      | content formed whole => exact .content reads refused formed whole
  | entries _ _ refused => exact (not_unsaid_of_configEntries refused unsaid).elim
  | endless reads holds isMapping isEndless =>
      rcases exists_of_unsaid_endlessFault unsaid with ⟨replaced, replaces⟩
      exact .endless reads holds isMapping isEndless replaces
  | settings reads holds isMapping ends refused =>
      cases unsaid with
      | number isNumeric => exact .number reads holds isMapping ends refused isNumeric

namespace Unreadable

/-- An unreadable file is refused with a fault that is not said. -/
theorem loadFile
    (unreadable : Unreadable workspace environment path) :
    ∃ fault, workspace.loadFile environment path = .error fault ∧ Unsaid fault := by
  unfold Workspace.loadFile
  cases unreadable with
  | directory there =>
      refine ⟨_, ?_, .directory⟩
      simp only [Workspace.read, there, bind, Except.bind]
  | encoding there noText =>
      refine ⟨_, ?_, .encoding⟩
      simp only [Workspace.read, there, noText, bind, Except.bind]
  | content reads refused formed whole =>
      refine ⟨_, ?_, .content formed whole⟩
      simp only [reads, bind, Except.bind, refused, mapError_error]
  | endless reads holds isMapping isEndless replaces =>
      refine ⟨.content .endless, ?_, .content (by simp) (by simp)⟩
      simp only [reads, bind, Except.bind, holds, mapError_ok, isMapping, isEndless, ↓reduceIte,
        Workspace.endlessFault, replaces]
      rfl
  | number reads holds isMapping ends refused isNumeric =>
      refine ⟨_, ?_, .number isNumeric⟩
      simp only [reads, bind, Except.bind, holds, mapError_ok, isMapping, ends,
        Bool.false_eq_true, ↓reduceIte, refused, mapError_error]

end Unreadable

end

end Splice.Command
