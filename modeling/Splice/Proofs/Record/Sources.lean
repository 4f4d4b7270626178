import Mathlib.Data.List.Infix
import Splice.Record.Recorder

namespace Splice

/-!
# Sources below one another

The dots in the name of a source say below which other sources it stands, and every source
stands below the top.  A source may have a level and outlets of its own.  The least level of
the records that are written is that of the nearest source above that has one, and a record
reaches the outlets of its source and of those above, up to the first that passes nothing on.
A record that reaches no outlet is shown as its bare message if it is a warning or worse.

A recorder is what becomes of this when the source of the library's own name is the only one
that is ever set up: `write_ofRecorder` says that both write the same.
-/

/-- How one source is set up. -/
structure SourceSetup where
  /-- The least level of the records that are written; zero leaves it to the sources above. -/
  level : Level := 0
  outlets : List Outlet := []
  /-- Whether records go on to the outlets of the sources above. -/
  passesOn : Bool := true

/-- How the sources are set up, by their names. -/
abbrev Sources := Text → SourceSetup

namespace Sources

/-- Sources of which none is set up. -/
def fresh : Sources :=
  fun _ => {}

/-- What stands above all sources. -/
def top : SourceSetup where
  level := Level.warning

/-- Whether a name is that of a source or of one above it. -/
def isAbove (name source : Text) : Bool :=
  source == name || Text.startsWith (name ++ ['.']) source

/-- A source and those above it, the nearest first. -/
def chain (source : Text) : List Text :=
  (source.inits.filter (isAbove · source)).reverse

/-- The least level that some sources, the nearest first, and the top ask for. -/
def levelAlong (sources : Sources) : List Text → Level
  | [] => top.level
  | name :: above =>
      if (sources name).level = 0 then sources.levelAlong above else (sources name).level

/-- The outlets that a record reaches along some sources, the nearest first, and at the top. -/
def outletsAlong (sources : Sources) : List Text → List Outlet
  | [] => top.outlets
  | name :: above =>
      (sources name).outlets ++ if (sources name).passesOn then sources.outletsAlong above else []

/-- Whether records of a level from a source are written. -/
def isEnabled (sources : Sources) (source : Text) (level : Level) : Bool :=
  0 < level && sources.levelAlong (chain source) ≤ level

/-- What a record adds to a stream through an outlet. -/
def entryOf? (record : Record) (outlet : Outlet) : Option (Stream × Text) :=
  match record.line outlet.layout with
  | .ok line => some (outlet.stream, line ++ ['\n'])
  | .error _ => none

/-- What a record that reaches no outlet adds to a stream. -/
def bareOf? (record : Record) : Option (Stream × Text) :=
  if Level.warning ≤ record.level then some (Stream.standardError, record.message ++ ['\n'])
  else none

/-- Everything that a record adds to streams, if it is written. -/
def write (sources : Sources) (source : Text) (record : Record) : List (Stream × Text) :=
  if sources.isEnabled source record.level then
    match sources.outletsAlong (chain source) with
    | [] => (bareOf? record).toList
    | outlets => outlets.filterMap (entryOf? record)
  else []

/--
Set up the source of the library's own name: what it had for outlets is replaced, and nothing
goes on to the top.
-/
def setUp (sources : Sources) (mode : LineMode) (level : Level) (stream : Stream) : Sources :=
  Function.update sources Recorder.family
    { level := level, outlets := [⟨stream, ⟨mode, stream.isTerminal⟩⟩], passesOn := false }

/-- The sources of which a recorder knows how they are set up. -/
def ofRecorder (recorder : Recorder) : Sources :=
  Function.update fresh Recorder.family
    { level := recorder.level
      outlets := recorder.outlet.toList
      passesOn := recorder.outlet.isNone }

/-- The chain of a source holds the names above it. -/
theorem mem_chain_iff
    {name source : Text} :
    name ∈ chain source ↔ isAbove name source = true := by
  simp only [chain, List.mem_reverse, List.mem_filter, List.mem_inits, and_iff_right_iff_imp]
  intro above
  rcases Bool.or_eq_true_iff.mp above with same | below
  · rw [beq_iff_eq.mp same]
  · exact (List.prefix_append name ['.']).trans (List.isPrefixOf_iff_prefix.mp below)

/-- The library's own sources are those below its name. -/
theorem isAbove_family
    (source : Text) :
    isAbove Recorder.family source = Recorder.isOwn source :=
  rfl

/-- Sources of which none is set up but that of the library's own name. -/
def OnlyFamily (sources : Sources) : Prop :=
  ∀ name, name ≠ Recorder.family → sources name = {}

namespace OnlyFamily

variable {sources : Sources}

theorem fresh : OnlyFamily Sources.fresh :=
  fun _ _ => rfl

/-- Setting up the program's own family sets up no other source. -/
theorem update
    (only : sources.OnlyFamily)
    (setup : SourceSetup) :
    OnlyFamily (Function.update sources Recorder.family setup) := by
  intro name other
  rw [Function.update_of_ne other]
  exact only name other

/-- Along any names the level is the family's where it has one, else that of the top. -/
theorem levelAlong_eq
    (only : sources.OnlyFamily)
    (names : List Text) :
    sources.levelAlong names =
      if Recorder.family ∈ names ∧ (sources Recorder.family).level ≠ 0 then
        (sources Recorder.family).level
      else top.level := by
  induction names with
  | nil => simp [levelAlong]
  | cons name above inductionHypothesis =>
      rw [levelAlong, inductionHypothesis]
      by_cases isFamily : name = Recorder.family
      · by_cases asksNone : (sources Recorder.family).level = 0 <;> simp [isFamily, asksNone]
      · simp [only name isFamily, Ne.symm isFamily]

/-- What is not set up passes everything on. -/
theorem outletsAlong_eq
    (only : sources.OnlyFamily)
    (stops : (sources Recorder.family).passesOn = true → (sources Recorder.family).outlets = [])
    (names : List Text) :
    sources.outletsAlong names =
      if Recorder.family ∈ names then (sources Recorder.family).outlets else [] := by
  induction names with
  | nil => rfl
  | cons name above inductionHypothesis =>
      rw [outletsAlong, inductionHypothesis]
      by_cases isFamily : name = Recorder.family
      · cases passes : (sources Recorder.family).passesOn with
        | false => simp [isFamily, passes]
        | true => simp [isFamily, stops passes]
      · simp [only name isFamily, Ne.symm isFamily]

end OnlyFamily

/-- A recorder sets up its own family and no other source. -/
theorem only_ofRecorder (recorder : Recorder) : (ofRecorder recorder).OnlyFamily :=
  OnlyFamily.fresh.update _

@[simp] theorem ofRecorder_family
    (recorder : Recorder) :
    ofRecorder recorder Recorder.family =
      { level := recorder.level
        outlets := recorder.outlet.toList
        passesOn := recorder.outlet.isNone } :=
  Function.update_self ..

/-- A recorder that was never set up stands for sources of which none is. -/
theorem ofRecorder_start : ofRecorder {} = fresh :=
  Function.update_eq_self Recorder.family fresh

/-- The sources of a recorder enable what the recorder does. -/
theorem isEnabled_ofRecorder
    (recorder : Recorder)
    (source : Text)
    (level : Level) :
    (ofRecorder recorder).isEnabled source level = recorder.isEnabled source level := by
  unfold isEnabled Recorder.isEnabled Recorder.threshold
  rw [(only_ofRecorder recorder).levelAlong_eq, ofRecorder_family]
  simp [mem_chain_iff, isAbove_family, top]

/-- The sources of a recorder have the recorder's outlet. -/
theorem outletsAlong_ofRecorder
    (recorder : Recorder)
    (source : Text) :
    (ofRecorder recorder).outletsAlong (chain source) = (recorder.outletOf source).toList := by
  rw [(only_ofRecorder recorder).outletsAlong_eq (by simp), ofRecorder_family]
  unfold Recorder.outletOf
  simp only [mem_chain_iff, isAbove_family]
  split <;> rfl

/-- A recorder writes what the sources write of which it knows how they are set up. -/
theorem write_ofRecorder
    (recorder : Recorder)
    (source : Text)
    (record : Record) :
    (ofRecorder recorder).write source record = (recorder.write source record).toList := by
  unfold write Recorder.write
  rw [isEnabled_ofRecorder, outletsAlong_ofRecorder]
  split
  · cases recorder.outletOf source with
    | none => rfl
    | some outlet =>
        simp only [Option.toList_some, List.filterMap_cons, List.filterMap_nil, entryOf?]
        cases record.line outlet.layout <;> rfl
  · rfl

/-- Setting a recorder up is setting up the source of the library's own name. -/
theorem setUp_ofRecorder
    (recorder : Recorder)
    (mode : LineMode)
    (level : Level)
    (stream : Stream) :
    (ofRecorder recorder).setUp mode level stream =
      ofRecorder (Recorder.setUp mode level stream) := by
  unfold setUp ofRecorder
  rw [Function.update_idem]
  rfl

end Sources

end Splice
