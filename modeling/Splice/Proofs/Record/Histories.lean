import Splice.Proofs.Record.Lines
import Splice.Proofs.Record.Sources

namespace Splice

/-!
# Histories of records

While a program runs, records are set up again and again, by hand or by switches, and its
sources make records in between, plain ones and such with data.  What one record adds depends
on the latest set-up alone: one entry in its form on its stream, if the record is important
enough for it, and nothing otherwise (`Entered`).  `entered_once` says so for every history,
of the sources with all that stands above them and of the recorder that stands for them.
-/

/-- What a set-up asks for. -/
structure SetUp where
  mode : LineMode
  level : Level
  stream : Stream

namespace SetUp

/-- Where lines go, and what they look like. -/
def outlet (setup : SetUp) : Outlet :=
  ⟨setup.stream, ⟨setup.mode, setup.stream.isTerminal⟩⟩

/-- The recorder that is set up so. -/
def recorder (setup : SetUp) : Recorder :=
  Recorder.setUp setup.mode setup.level setup.stream

end SetUp

/-- What the switches ask for: programs win for the form, and quiet wins for the level. -/
def Verbosity.setup (flags : Verbosity) : SetUp where
  mode := if flags.machine then .json else if flags.verbose then .verbose else .human
  level := if flags.quiet then Level.warning else if flags.verbose then Level.debug else Level.info
  stream := Stream.standardError

/-- What a program does with records. -/
inductive Event where
  /-- Set up by hand; without a stream it is that for everything that is no result. -/
  | setUp (mode : LineMode) (level : Level) (stream : Option Stream)
  /-- Set up by switches. -/
  | configure (flags : Verbosity)
  /-- Make a record. -/
  | log (source : Text) (record : Record)
  /-- Make a record with data, if records of its level are written. -/
  | structured (source : Text) (record : Record)

namespace Event

/-- The set-up of an event. -/
def setup? : Event → Option SetUp
  | .setUp mode level stream => some ⟨mode, level, stream.getD Stream.standardError⟩
  | .configure flags => some flags.setup
  | .log _ _ => none
  | .structured _ _ => none

/-- The source and the record of an event. -/
def record? : Event → Option (Text × Record)
  | .setUp _ _ _ => none
  | .configure _ => none
  | .log source record => some (source, record)
  | .structured source record => some (source, record)

end Event

/-- The latest set-up of a history. -/
def latest? (history : List Event) : Option SetUp :=
  (history.filterMap Event.setup?).getLast?

/-- A record of the library whose message takes its arguments and whose data have a notation. -/
structure Record.Proper (source : Text) (record : Record) : Prop where
  own : source = Recorder.family ∨ ∃ below, source = Recorder.family ++ '.' :: below
  positive : 1 ≤ record.level
  time : Moment.IsTime record.created
  hasText : ∃ text, record.text = .ok text
  representable : Value.AreRepresentable record.data

/-- An event whose level is at least one and whose record is proper. -/
def Event.Proper : Event → Prop
  | .setUp _ level _ => 1 ≤ level
  | .configure _ => True
  | .log source record => record.Proper source
  | .structured source record => record.Proper source

/-- Something that is set up and that records go through. -/
structure Recording (σ : Type) where
  setUp : σ → LineMode → Level → Stream → σ
  configure : σ → Verbosity → σ
  isEnabled : σ → Text → Level → Bool
  write : σ → Text → Record → List (Stream × Text)

namespace Recording

/-- Records that go through a recorder. -/
def ofRecorder : Recording Recorder where
  setUp _ := Recorder.setUp
  configure _ := Recorder.configure
  isEnabled := Recorder.isEnabled
  write recorder source record := (recorder.write source record).toList

/-- Records that go through sources and those above them. -/
def ofSources : Recording Sources where
  setUp := Sources.setUp
  configure sources flags :=
    sources.setUp flags.setup.mode flags.setup.level flags.setup.stream
  isEnabled := Sources.isEnabled
  write := Sources.write

variable {σ : Type} (recording : Recording σ)

/-- How things are set up after an event. -/
def next (state : σ) : Event → σ
  | .setUp mode level stream =>
      recording.setUp state mode level (stream.getD Stream.standardError)
  | .configure flags => recording.configure state flags
  | .log _ _ => state
  | .structured _ _ => state

/-- What an event adds to streams. -/
def added (state : σ) : Event → List (Stream × Text)
  | .setUp _ _ _ => []
  | .configure _ => []
  | .log source record => recording.write state source record
  | .structured source record =>
      if recording.isEnabled state source record.level then recording.write state source record
      else []

/-- How things are set up after a history. -/
def after (state : σ) : List Event → σ
  | [] => state
  | event :: rest => after (recording.next state event) rest

/-- What a history adds to streams, in that order. -/
def written (state : σ) : List Event → List (Stream × Text)
  | [] => []
  | event :: rest => recording.added state event ++ written (recording.next state event) rest

/-- What a longer history writes: what the first part does, then the rest from there. -/
theorem written_append
    (state : σ)
    (history more : List Event) :
    recording.written state (history ++ more) =
      recording.written state history ++
        recording.written (recording.after state history) more := by
  induction history generalizing state with
  | nil => rfl
  | cons event rest inductionHypothesis =>
      simp only [List.cons_append, written, after, inductionHypothesis, List.append_assoc]

end Recording

/-- The texts that were added to one stream, in that order. -/
def entriesOn (stream : Stream) (entries : List (Stream × Text)) : List Text :=
  (entries.filter (·.1 = stream)).map Prod.snd

theorem entriesOn_append
    (stream : Stream)
    (first second : List (Stream × Text)) :
    entriesOn stream (first ++ second) = entriesOn stream first ++ entriesOn stream second := by
  simp [entriesOn]

/-- What a record adds to streams under a set-up. -/
structure Entered (setup : SetUp) (record : Record) (added : List (Stream × Text)) : Prop where
  once : setup.level ≤ record.level →
    ∃ line, record.line setup.outlet.layout = .ok line ∧
      added = [(setup.stream, line ++ ['\n'])]
  silent : record.level < setup.level → added = []

section

variable {setup : SetUp} {source : Text} {record : Record}

/-- A proper record comes from a source of the program's own family. -/
theorem Record.Proper.isOwn
    (proper : record.Proper source) :
    Recorder.isOwn source = true := by
  rcases proper.own with rfl | ⟨below, rfl⟩
  · simp [Recorder.isOwn]
  · have shape : Recorder.family ++ '.' :: below = Recorder.family ++ ['.'] ++ below := by simp
    rw [shape]
    exact Bool.or_eq_true_iff.mpr
      (.inr (List.isPrefixOf_iff_prefix.mpr (List.prefix_append _ below)))

/-- Under a set-up, a record is looked at if it is important enough. -/
theorem isEnabled_recorder
    (positive : 1 ≤ setup.level)
    (proper : record.Proper source) :
    setup.recorder.isEnabled source record.level = true ↔ setup.level ≤ record.level := by
  have levelPositive := proper.positive
  have asks : setup.level ≠ 0 := by
    intro asksNone
    rw [asksNone] at positive
    exact absurd positive (by decide)
  have threshold : setup.recorder.threshold source = setup.level := by
    simp [Recorder.threshold, proper.isOwn, SetUp.recorder, Recorder.setUp, asks]
  unfold Recorder.isEnabled
  rw [threshold, Bool.and_eq_true, decide_eq_true_iff, decide_eq_true_iff]
  exact and_iff_right (Int.lt_of_lt_of_le Int.zero_lt_one levelPositive)

/-- A recorder that is set up enters a proper record where and when it should. -/
theorem entered_write
    (positive : 1 ≤ setup.level)
    (proper : record.Proper source) :
    Entered setup record (setup.recorder.write source record).toList := by
  have enabled := isEnabled_recorder positive proper
  constructor
  · intro important
    rcases record.exists_line proper.time proper.hasText proper.representable
      setup.outlet.layout with ⟨line, made⟩
    refine ⟨line, made, ?_⟩
    have outlet : setup.recorder.outletOf source = some setup.outlet := by
      simp only [Recorder.outletOf, proper.isOwn, ↓reduceIte]
      rfl
    unfold Recorder.write
    rw [if_pos (enabled.mpr important), outlet]
    dsimp only
    rw [made]
    rfl
  · intro unimportant
    have closed : ¬ setup.recorder.isEnabled source record.level = true :=
      fun opens => absurd (enabled.mp opens) (Int.not_le.mpr unimportant)
    unfold Recorder.write
    rw [if_neg closed]
    rfl

end

section

variable {event : Event} {setup : SetUp} {source : Text} {record : Record}

theorem Event.proper_of_record?
    (proper : event.Proper)
    (isRecord : event.record? = some (source, record)) :
    record.Proper source := by
  cases event with
  | log _ _ | structured _ _ =>
      cases isRecord
      exact proper
  | _ => cases isRecord

/-- The step: looking twice whether a record is important enough changes nothing. -/
theorem entered_added
    (positive : 1 ≤ setup.level)
    (proper : event.Proper)
    (isRecord : event.record? = some (source, record)) :
    Entered setup record (Recording.ofRecorder.added setup.recorder event) := by
  have isProper := event.proper_of_record? proper isRecord
  have entered := entered_write positive isProper
  cases event with
  | log _ _ =>
      cases isRecord
      exact entered
  | structured _ _ =>
      cases isRecord
      refine ⟨fun important => ?_, fun unimportant => ?_⟩
      · have opens := (isEnabled_recorder positive isProper).mpr important
        rcases entered.once important with ⟨line, made, same⟩
        exact ⟨line, made, (if_pos opens).trans same⟩
      · exact ite_eq_right_iff.mpr fun _ => entered.silent unimportant
  | _ => cases isRecord

end

/-- What a record adds goes to the stream of the set-up. -/
theorem Entered.entriesOn_eq_nil
    {setup : SetUp}
    {record : Record}
    {added : List (Stream × Text)}
    (entered : Entered setup record added)
    {stream : Stream}
    (other : setup.stream ≠ stream) :
    entriesOn stream added = [] := by
  rcases Int.lt_or_le record.level setup.level with unimportant | important
  · rw [entered.silent unimportant]
    rfl
  · rcases entered.once important with ⟨line, _, same⟩
    simp [same, entriesOn, other]

/-- What is no set-up makes a record. -/
theorem Event.exists_record?
    {event : Event}
    (noSetup : event.setup? = none) :
    ∃ source record, event.record? = some (source, record) := by
  cases event with
  | log source record | structured source record => exact ⟨source, record, rfl⟩
  | _ => cases noSetup

/-- A proper set-up asks for a level of at least 1. -/
theorem Event.positive_of_setup?
    {event : Event}
    {setup : SetUp}
    (proper : event.Proper)
    (isSetup : event.setup? = some setup) :
    1 ≤ setup.level := by
  cases event with
  | setUp mode level stream =>
      cases isSetup
      exact proper
  | configure flags =>
      cases isSetup
      rcases flags with ⟨verbose, quiet, machine⟩
      cases verbose <;> cases quiet <;> cases machine <;> decide
  | _ => cases isSetup

/-- The latest set-up is that of the later events, else that of the first. -/
theorem latest?_cons
    (event : Event)
    (history : List Event) :
    latest? (event :: history) = (latest? history).or event.setup? := by
  unfold latest?
  cases isSetup : event.setup? with
  | none => rw [List.filterMap_cons_none isSetup, Option.or_none]
  | some setup =>
      rw [List.filterMap_cons_some isSetup, List.getLast?_cons]
      cases (history.filterMap Event.setup?).getLast? <;> rfl

/-- A positive level is asked for by every set-up of proper events. -/
theorem positive_of_latest?
    {history : List Event}
    {latest : SetUp}
    (proper : ∀ event ∈ history, event.Proper)
    (isLatest : latest? history = some latest) :
    1 ≤ latest.level := by
  rcases List.mem_filterMap.mp (List.mem_of_getLast? isLatest) with ⟨event, member, isSetup⟩
  exact event.positive_of_setup? (proper event member) isSetup

namespace Recording

section

variable {event : Event} {setup : SetUp}

/-- A set-up leaves nothing of what was set up before. -/
theorem next_of_setup?
    (recorder : Recorder)
    (isSetup : event.setup? = some setup) :
    ofRecorder.next recorder event = setup.recorder := by
  cases event <;> cases isSetup <;> rfl

/-- Setting up writes nothing. -/
theorem added_of_setup?
    (recorder : Recorder)
    (isSetup : event.setup? = some setup) :
    ofRecorder.added recorder event = [] := by
  cases event <;> cases isSetup <;> rfl

/-- What is no set-up leaves everything as it was set up. -/
theorem next_of_no_setup?
    (recorder : Recorder)
    (noSetup : event.setup? = none) :
    ofRecorder.next recorder event = recorder := by
  cases event <;> cases noSetup <;> rfl

end

/-- A recorder is set up as the latest set-up asks for, whatever was before. -/
theorem after_eq
    (recorder : Recorder)
    (history : List Event) :
    ofRecorder.after recorder history =
      ((latest? history).map SetUp.recorder).getD recorder := by
  induction history generalizing recorder with
  | nil => rfl
  | cons event rest inductionHypothesis =>
      rw [after, inductionHypothesis, latest?_cons]
      cases latest? rest with
      | some latest => rfl
      | none =>
          cases isSetup : event.setup? with
          | none => exact next_of_no_setup? recorder isSetup
          | some setup => exact next_of_setup? recorder isSetup

/-- Each event takes the sources of a recorder to those of the next. -/
theorem next_ofSources
    (recorder : Recorder)
    (event : Event) :
    ofSources.next (Sources.ofRecorder recorder) event =
      Sources.ofRecorder (ofRecorder.next recorder event) := by
  cases event with
  | setUp mode level stream => exact Sources.setUp_ofRecorder recorder _ _ _
  | configure flags => exact Sources.setUp_ofRecorder recorder _ _ _
  | _ => rfl

/-- A history takes the sources of a recorder to those of the recorder it leaves. -/
theorem after_ofSources
    (recorder : Recorder)
    (history : List Event) :
    ofSources.after (Sources.ofRecorder recorder) history =
      Sources.ofRecorder (ofRecorder.after recorder history) := by
  induction history generalizing recorder with
  | nil => rfl
  | cons event rest inductionHypothesis =>
      rw [after, next_ofSources, inductionHypothesis, after]

/-- The sources of a recorder write what that recorder does. -/
theorem added_ofSources
    (recorder : Recorder)
    (event : Event) :
    ofSources.added (Sources.ofRecorder recorder) event = ofRecorder.added recorder event := by
  cases event with
  | log source record => exact Sources.write_ofRecorder recorder source record
  | structured source record =>
      change (if (Sources.ofRecorder recorder).isEnabled source record.level then
          (Sources.ofRecorder recorder).write source record else []) = _
      rw [Sources.isEnabled_ofRecorder, Sources.write_ofRecorder]
      rfl
  | _ => rfl

/-- Over a history the sources of a recorder write what that recorder does. -/
theorem written_ofSources
    (recorder : Recorder)
    (history : List Event) :
    ofSources.written (Sources.ofRecorder recorder) history =
      ofRecorder.written recorder history := by
  induction history generalizing recorder with
  | nil => rfl
  | cons event rest inductionHypothesis =>
      rw [written, written, added_ofSources, next_ofSources, inductionHypothesis]

/-- The run: nothing is added to a stream that is not set up and is not set up again. -/
theorem entriesOn_written
    {setup : SetUp}
    (positive : 1 ≤ setup.level)
    {stream : Stream}
    (other : setup.stream ≠ stream)
    {more : List Event}
    (proper : ∀ event ∈ more, event.Proper)
    (never : ∀ later ∈ more.filterMap Event.setup?, later.stream ≠ stream) :
    entriesOn stream (ofRecorder.written setup.recorder more) = [] := by
  induction more generalizing setup with
  | nil => rfl
  | cons event rest inductionHypothesis =>
      have here := proper event List.mem_cons_self
      have properRest := fun later member => proper later (List.mem_cons_of_mem event member)
      rw [written, entriesOn_append]
      cases isSetup : event.setup? with
      | some next =>
          rw [List.filterMap_cons_some isSetup] at never
          rw [added_of_setup? _ isSetup, next_of_setup? _ isSetup]
          exact inductionHypothesis (event.positive_of_setup? here isSetup)
            (never next List.mem_cons_self) properRest
            fun setup member => never setup (List.mem_cons_of_mem next member)
      | none =>
          rw [List.filterMap_cons_none isSetup] at never
          rcases event.exists_record? isSetup with ⟨source, record, isRecord⟩
          rw [(entered_added positive here isRecord).entriesOn_eq_nil other,
            next_of_no_setup? _ isSetup]
          exact inductionHypothesis positive other properRest never

end Recording

/--
After any history with a set-up, the source of the library's name has the one outlet of the
latest set-up and passes nothing on.  A record, plain or with data, is entered once there if
it is important enough for that set-up, and nowhere else.  No stream of an earlier set-up
gets anything again unless it is set up again.
-/
theorem entered_once
    {history : List Event}
    {latest : SetUp}
    (proper : ∀ event ∈ history, event.Proper)
    (isLatest : latest? history = some latest) :
    Recording.ofSources.after Sources.fresh history Recorder.family =
      { level := latest.level, outlets := [latest.outlet], passesOn := false } ∧
    (∀ event source record, event.Proper → event.record? = some (source, record) →
      Entered latest record
        (Recording.ofSources.added (Recording.ofSources.after Sources.fresh history) event) ∧
      Recording.ofRecorder.added (Recording.ofRecorder.after {} history) event =
        Recording.ofSources.added (Recording.ofSources.after Sources.fresh history) event) ∧
    ∀ more stream, (∀ event ∈ more, event.Proper) → latest.stream ≠ stream →
      (∀ later ∈ more.filterMap Event.setup?, later.stream ≠ stream) →
      entriesOn stream (Recording.ofSources.written Sources.fresh (history ++ more)) =
        entriesOn stream (Recording.ofSources.written Sources.fresh history) := by
  have positive := positive_of_latest? proper isLatest
  have isFresh : Sources.fresh = Sources.ofRecorder {} := Sources.ofRecorder_start.symm
  have isAfter : Recording.ofRecorder.after {} history = latest.recorder := by
    rw [Recording.after_eq, isLatest]
    rfl
  rw [isFresh, Recording.after_ofSources, isAfter]
  refine ⟨Sources.ofRecorder_family _, fun event source record isProper isRecord => ?_,
    fun more stream moreProper other never => ?_⟩
  · rw [Recording.added_ofSources]
    exact ⟨entered_added positive isProper isRecord, rfl⟩
  · rw [Recording.written_append, entriesOn_append, Recording.after_ofSources, isAfter,
      Recording.written_ofSources latest.recorder,
      Recording.entriesOn_written positive other moreProper never, List.append_nil]

/-- Streams that are a terminal and none. -/
def screen : Stream := ⟨"tty".toList, true⟩

def page : Stream := ⟨"plain".toList, false⟩

/-- A history in which records move from one stream to another one and change their form. -/
def movedRecords : List Event := [
  .setUp .human Level.info (some page),
  .log "codeloom.test".toList
    { level := Level.info, message := "rendered".toList, created := .ofInt 0 },
  .setUp .json Level.error (some screen)]

/-- A record of names that are missing. -/
def missingNames : Record where
  level := Level.error
  message := "bad".toList
  created := .ofInt 0
  data := [(.text "missing".toList, .list [.text "x".toList])]

/-- The line of the names that are missing, for programs. -/
def missingLine : Text :=
  "\x7b\"level\": \"ERROR\", \"ts\": \"1970-01-01T00:00:00+00:00\", ".toList ++
    "\"msg\": \"bad\", \"missing\": [\"x\"]\x7d".toList

theorem proper_movedRecords : ∀ event ∈ movedRecords, event.Proper := by
  intro event member
  simp only [movedRecords, List.mem_cons, List.not_mem_nil, or_false] at member
  rcases member with rfl | rfl | rfl
  · show (1 : Int) ≤ 20
    decide
  · exact ⟨.inr ⟨"test".toList, rfl⟩, by decide, Moment.isTime_zero, ⟨_, rfl⟩, by simp, by simp⟩
  · show (1 : Int) ≤ 40
    decide

theorem proper_missingNames : missingNames.Proper Recorder.family where
  own := .inl rfl
  positive := by decide
  time := Moment.isTime_zero
  hasText := ⟨_, rfl⟩
  representable := by
    constructor <;> simp only [missingNames, List.mem_singleton, forall_eq]
    · exact .text _
    · exact .list fun item member => by
        rw [List.mem_singleton.mp member]
        exact .text _

/--
Records that move from the screen to a page and back: each is entered once, where the latest
set-up says.
-/
theorem entered_once_movedRecords :
    (∀ event ∈ movedRecords, event.Proper) ∧
    latest? movedRecords = some ⟨.json, Level.error, screen⟩ ∧
    missingNames.Proper Recorder.family ∧
    Recording.ofSources.added (Recording.ofSources.after Sources.fresh movedRecords)
        (.structured Recorder.family missingNames) =
      [(screen, missingLine ++ ['\n'])] ∧
    entriesOn page (Recording.ofSources.written Sources.fresh
        (movedRecords ++ [.structured Recorder.family missingNames])) =
      ["[INFO] rendered\n".toList] := by
  rcases entered_once proper_movedRecords rfl with ⟨_, each, others⟩
  refine ⟨proper_movedRecords, rfl, proper_missingNames, ?_, ?_⟩
  · rcases each (.structured Recorder.family missingNames) _ _ proper_missingNames rfl with
      ⟨entered, _⟩
    rcases entered.once (Int.le_refl _) with ⟨line, made, same⟩
    have shown : (missingNames.line ⟨.json, true⟩).toOption = some missingLine := by
      decide +kernel
    rw [show missingNames.line ⟨.json, true⟩ = .ok line from made] at shown
    rw [same, Option.some.inj shown]
    rfl
  · have proper : ∀ event ∈ [Event.structured Recorder.family missingNames], event.Proper := by
      intro event member
      rw [List.mem_singleton.mp member]
      exact proper_missingNames
    rw [others _ page proper (by decide) (by simp [Event.setup?])]
    decide +kernel

end Splice
