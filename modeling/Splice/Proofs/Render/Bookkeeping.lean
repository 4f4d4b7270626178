import Splice.Proofs.Render.Collapse
import Splice.Proofs.Render.Stages
import Splice.Render.Debug
import Splice.Render.Plain

namespace Splice.Render

/-!
# The counters of a sheet

At every stage of a walk the counters of the sheet say what they stand for (`Orderly`): the
column is the length of the line under construction, the breaks that wait fit under the cap,
and the cap is that of the line that was moved to the output last.  As a break waits
whenever such a line is there and the next line may be finished (`waits`), no two lines stand
on one (`Flushed`).
-/

variable {σ μ : Type}

/-- The cap that belongs to the lines that were moved to the output. -/
def capOf (spacing : Spacing) (written : List Text) : Nat :=
  match written.getLast? with
  | none => 0
  | some line => if opensBracket line then spacing.capAfterOpen else spacing.cap

/-- Nothing caps the gap exactly when nothing was written. -/
theorem capOf_eq_zero_iff
    (spacing : Spacing)
    (written : List Text) :
    capOf spacing written = 0 ↔ written = [] := by
  unfold capOf
  cases last : written.getLast? with
  | none => simpa using last
  | some line =>
      have isWritten : written ≠ [] := by
        rintro rfl
        cases last
      exact iff_of_false (Nat.ne_of_gt (Sheet.capAfter_pos spacing line)) isWritten

namespace Sheet

variable {sheet : Sheet μ} (spacing : Spacing) (base : Nat)

theorem moved_of_blank
    (blank : Text.allBlank sheet.lineText = true) :
    sheet.moved = [] :=
  if_pos blank

theorem moved_of_solid
    (solid : Text.allBlank sheet.lineText = false) :
    sheet.moved = [sheet.lineText] := by
  unfold moved
  rw [solid]
  rfl

/-- A line leaves a break before itself exactly when one waits. -/
theorem breaksBefore_eq_zero_iff
    (line : Text) :
    sheet.breaksBefore spacing line = 0 ↔ sheet.pending = 0 := by
  have positive := spacing.capBeforeClose_pos
  unfold breaksBefore
  split <;> omega

variable [Hooks μ]

theorem flush_of_blank
    (blank : Text.allBlank sheet.lineText = true) :
    sheet.flush spacing base = { sheet with column := base, line := Hooks.padding base } := by
  unfold flush
  rw [if_pos blank]

theorem flush_of_solid
    (solid : Text.allBlank sheet.lineText = false) :
    sheet.flush spacing base =
      { sheet.emit spacing with column := base, line := Hooks.padding base } := by
  unfold flush
  rw [solid]
  rfl

end Sheet

variable [Hooks μ]

/-- What the counters of a sheet have to do with the line under construction and the output. -/
structure Orderly (spacing : Spacing) (stage : Stage σ μ) : Prop where
  column : stage.desk.sheet.column = stage.desk.sheet.lineText.length
  pending : stage.desk.sheet.pending ≤ stage.desk.sheet.cap
  cap : stage.desk.sheet.cap = capOf spacing stage.written
  emitted : stage.desk.sheet.emitted = true ↔ stage.written ≠ []
  output : stage.written = [] → stage.desk.sheet.output = []
  /-- A break waits behind the last line unless that line was just finished. -/
  waits : stage.ending = .ahead → stage.errands.head? ≠ some .count → stage.written ≠ [] →
    0 < stage.desk.sheet.pending

/--
What finishing a line does to a sheet: a line that is not blank is moved to the output, behind
a break if it is not the first.
-/
structure Flushed (base : Nat) (stage later : Stage σ μ) : Prop where
  line : later.desk.sheet.lineText = List.replicate base ' '
  dropped : Text.allBlank stage.desk.sheet.lineText = true →
    later.written = stage.written ∧ later.desk.sheet.output = stage.desk.sheet.output
  moved : Text.allBlank stage.desk.sheet.lineText = false →
    ∃ count,
      later.written = stage.written ++ [stage.desk.sheet.lineText] ∧
      segmentsText later.desk.sheet.output =
        segmentsText stage.desk.sheet.output ++ List.replicate count '\n' ++
          stage.desk.sheet.lineText ∧
      (count = 0 ↔ stage.written = [])

namespace Orderly

variable {spacing : Spacing} {stage later : Stage σ μ}

theorem of_start
    (spacing : Spacing)
    (hand : σ)
    (document : Document) :
    Orderly spacing (.start (⟨Sheet.start, hand⟩ : Desk σ μ) document) where
  column := congrArg List.length Sheet.lineText_start.symm
  pending := Nat.le_refl 0
  cap := rfl
  emitted := by simp [Stage.start, Sheet.start]
  output := fun _ => rfl
  waits := fun _ _ isWritten => absurd rfl isWritten

/-- Only a line that is not blank changes the counters, and then the cap is its own. -/
theorem flush
    {base : Nat}
    (orderly : Orderly spacing stage)
    (flushes : Flushes spacing base stage later) :
    Orderly spacing later := by
  have waits : later.ending = .ahead → later.errands.head? ≠ some .count → False := by
    cases flushes with
    | breakLine _ _ _ _ => exact fun _ notCount => notCount rfl
    | lastLine _ _ =>
        intro isAhead
        cases isAhead
  have isSheet := flushes.sheet_eq
  have isWritten := flushes.written_eq
  have column : later.desk.sheet.column = later.desk.sheet.lineText.length := by
    rw [isSheet, Sheet.lineText_flush, List.length_replicate]
    rfl
  cases blank : Text.allBlank stage.desk.sheet.lineText with
  | true =>
      rw [Sheet.flush_of_blank spacing base blank] at isSheet
      rw [Sheet.moved_of_blank blank, List.append_nil] at isWritten
      refine ⟨column, ?_, ?_, ?_, ?_, fun isAhead notCount => (waits isAhead notCount).elim⟩
      · simpa only [isSheet] using orderly.pending
      · simpa only [isSheet, isWritten] using orderly.cap
      · simpa only [isSheet, isWritten] using orderly.emitted
      · simpa only [isSheet, isWritten] using orderly.output
  | false =>
      rw [Sheet.flush_of_solid spacing base blank] at isSheet
      rw [Sheet.moved_of_solid blank] at isWritten
      have someWritten : later.written ≠ [] := by
        rw [isWritten]
        exact List.append_ne_nil_of_right_ne_nil _ (List.cons_ne_nil _ _)
      refine ⟨column, ?_, ?_, ?_, fun isEmpty => absurd isEmpty someWritten,
        fun isAhead notCount => (waits isAhead notCount).elim⟩
      · rw [isSheet]
        exact Nat.zero_le _
      · rw [isSheet, isWritten, capOf, List.getLast?_concat]
        rfl
      · rw [isSheet]
        exact iff_of_true rfl someWritten

/-- The step: every move keeps the counters in order. -/
theorem move
    {pen : Pen σ μ}
    (orderly : Orderly spacing stage)
    (move : Move pen spacing stage later) :
    Orderly spacing later := by
  cases move with
  | flush flushes => exact orderly.flush flushes
  | count desk written rest =>
      have pending := orderly.pending
      have cap := orderly.cap
      have positive : written ≠ [] → 0 < desk.sheet.cap := fun isWritten =>
        Nat.pos_of_ne_zero fun isZero =>
          isWritten ((capOf_eq_zero_iff spacing written).mp (cap.symm.trans isZero))
      unfold Sheet.countBreak
      split
      · next room =>
          exact ⟨orderly.column, room, cap, orderly.emitted, orderly.output,
            fun _ _ _ => Nat.succ_pos _⟩
      · next full =>
          exact ⟨orderly.column, pending, cap, orderly.emitted, orderly.output,
            fun _ _ isWritten => Nat.lt_of_lt_of_le (positive isWritten) (Nat.le_of_not_lt full)⟩
  | write desk written isText base rest =>
      refine ⟨?_, orderly.pending, orderly.cap, orderly.emitted, orderly.output,
        fun _ _ => orderly.waits rfl (by simp)⟩
      have column := orderly.column
      simp only [Sheet.write, Sheet.lineText, segmentsText_append, List.length_append] at column ⊢
      rw [column]
      simp [segmentsText]
  | enter _ _ _ _ _ | leave _ _ _ _ | mark _ _ _ _ _ =>
      exact ⟨orderly.column, orderly.pending, orderly.cap, orderly.emitted, orderly.output,
        fun _ _ => orderly.waits rfl (by simp)⟩
  | close desk written =>
      have notAhead : Ending.reached ≠ .ahead := by simp
      unfold Sheet.close
      split
      · next keeps =>
          have isEmitted : desk.sheet.emitted = true := by
            rw [Bool.and_eq_true, Bool.and_eq_true] at keeps
            exact keeps.1.2
          exact ⟨orderly.column, orderly.pending, orderly.cap, orderly.emitted,
            fun isEmpty => absurd isEmpty (orderly.emitted.mp isEmitted),
            fun isAhead => absurd isAhead notAhead⟩
      · exact ⟨orderly.column, orderly.pending, orderly.cap, orderly.emitted, orderly.output,
          fun isAhead => absurd isAhead notAhead⟩

/-- The run: the counters are in order at every stage. -/
theorem reaches
    {pen : Pen σ μ}
    (orderly : Orderly spacing stage)
    (reaches : Reaches pen spacing stage later) :
    Orderly spacing later := by
  induction reaches with
  | start => exact orderly
  | next _ move inductionHypothesis => exact inductionHypothesis.move move

omit [Hooks μ] in
/-- The cap is zero as long as nothing was moved to the output. -/
theorem cap_eq_zero_iff
    (orderly : Orderly spacing stage) :
    stage.desk.sheet.cap = 0 ↔ stage.desk.sheet.emitted = false := by
  rw [orderly.cap, capOf_eq_zero_iff, ← Bool.not_eq_true, orderly.emitted]
  exact Decidable.not_not.symm

/-- A line is moved behind a break unless it is the first. -/
theorem flushed
    {base : Nat}
    (orderly : Orderly spacing stage)
    (flushes : Flushes spacing base stage later) :
    Flushed base stage later := by
  have waits : stage.written ≠ [] → 0 < stage.desk.sheet.pending := by
    cases flushes with
    | breakLine _ _ _ _ => exact orderly.waits rfl (by simp)
    | lastLine _ _ => exact orderly.waits rfl (by simp)
  have waitsIff : stage.desk.sheet.pending = 0 ↔ stage.written = [] := by
    refine ⟨fun isZero => ?_, fun isEmpty => ?_⟩
    · exact Decidable.byContradiction fun isWritten =>
        absurd isZero (Nat.ne_of_gt (waits isWritten))
    · have noCap := (capOf_eq_zero_iff spacing _).mpr isEmpty
      exact Nat.eq_zero_of_le_zero (noCap ▸ orderly.cap ▸ orderly.pending)
  have isSheet := flushes.sheet_eq
  have isWritten := flushes.written_eq
  refine ⟨by rw [isSheet, Sheet.lineText_flush], fun blank => ?_, fun solid => ?_⟩
  · rw [isSheet, isWritten, Sheet.flush_of_blank spacing base blank, Sheet.moved_of_blank blank,
      List.append_nil]
    exact ⟨rfl, rfl⟩
  · refine ⟨stage.desk.sheet.breaksBefore spacing stage.desk.sheet.lineText, ?_, ?_, ?_⟩
    · rw [isWritten, Sheet.moved_of_solid solid]
    · rw [isSheet, Sheet.flush_of_solid spacing base solid]
      simp only [Sheet.emit, segmentsText_append, Hooks.segmentsText_feeds]
      rfl
    · rw [Sheet.breaksBefore_eq_zero_iff, waitsIff]

end Orderly

/--
What holds at every stage of a walk of a document from a desk, and whenever a line is finished
in it, whether the walk comes to its end or is stopped.
-/
structure OrderlyThroughout
    (pen : Pen σ μ)
    (spacing : Spacing)
    (desk : Desk σ μ)
    (document : Document) : Prop where
  orderly : ∀ stage, Reaches pen spacing (.start desk document) stage → Orderly spacing stage
  capless : ∀ stage, Reaches pen spacing (.start desk document) stage →
    (stage.desk.sheet.cap = 0 ↔ stage.desk.sheet.emitted = false)
  flushed : ∀ base stage later, Reaches pen spacing (.start desk document) stage →
    Flushes spacing base stage later → Flushed base stage later
  ends : match walkDocument pen spacing desk document with
    | .ok done =>
        ∃ written, Reaches pen spacing (.start desk document) ⟨done, written, [], .reached⟩
    | .error (fault, left) =>
        ∃ last, Reaches pen spacing (.start desk document) last ∧ last.IsStoppedBy fault left

/-- From a sheet on which nothing was written the whole rendering is orderly. -/
theorem orderlyThroughout_of_start
    (pen : Pen σ μ)
    (spacing : Spacing)
    (hand : σ)
    (document : Document) :
    OrderlyThroughout pen spacing ⟨Sheet.start, hand⟩ document := by
  have orderly : ∀ stage, Reaches pen spacing (.start ⟨Sheet.start, hand⟩ document) stage →
      Orderly spacing stage := fun stage => (Orderly.of_start spacing hand document).reaches
  exact ⟨orderly, fun stage reaches => (orderly stage reaches).cap_eq_zero_iff,
    fun base stage later reaches => (orderly stage reaches).flushed,
    reaches_walkDocument pen spacing _ document⟩

/-- The desk from which a plain renderer walks, whatever an earlier use left on it. -/
def PlainRenderer.begun (renderer : PlainRenderer) : Desk Unit Unit :=
  { renderer.desk with sheet := renderer.desk.sheet.restart }

/-- The desk from which a debug renderer walks, whatever an earlier use left on it. -/
def DebugRenderer.begun
    (renderer : DebugRenderer)
    (registry : Registry)
    (shelf : Shelf) :
    Desk Hand Ink :=
  ⟨renderer.desk.sheet.restart, renderer.desk.hand.restart registry shelf⟩

/--
Both renderers keep the counters of their sheet in order at every stage of every walk: the
column is that of the line under construction, the breaks that wait fit under the cap, and
the cap is that of the last line that was moved to the output; as long as there is none, it
is zero and the output is empty.  A new line is made of the spaces of its column, and a line
is moved behind a break unless it is the first.
-/
theorem orderly_rendering :
    (∀ (renderer : PlainRenderer) (document : Document),
      OrderlyThroughout plainPen renderer.spacing renderer.begun document) ∧
    ∀ (renderer : DebugRenderer) (registry : Registry) (shelf : Shelf) (document : Document),
      OrderlyThroughout (debugPen renderer.tracing) renderer.spacing
        (renderer.begun registry shelf) document :=
  ⟨fun _ _ => orderlyThroughout_of_start _ _ _ _, fun _ _ _ _ => orderlyThroughout_of_start _ _ _ _⟩

end Splice.Render
