import Splice.Session.Run

namespace Splice

/-!
# Drafts do not leak into each other

Variables of a program name drafts, and two of them change together exactly when they name
the same draft.  A draft changes only when something is appended to it, and then it grows
by what was there before the step, even if that is the draft itself.  Whatever was compiled
or joined from a draft, or nests it, is another draft and keeps what it held, and a step
that fails leaves all drafts as they were.

`touches_run` says once what a step can do to the drafts; `isolated_run` and the run as a
whole follow from it.
-/

namespace Drafts

variable {drafts : Drafts} {draft : Draft}

theorem holds_begin
    (held : drafts.holds draft)
    (document : Document) :
    (drafts.begin document).2.holds draft := by
  unfold holds begin at *
  simp only [Array.size_push]
  omega

theorem holds_append
    (held : drafts.holds draft)
    (receiver : Draft)
    (more : Document) :
    (drafts.append receiver more).holds draft := by
  unfold holds append at *
  simpa only [Array.size_modify] using held

theorem not_holds_begun
    (drafts : Drafts)
    (document : Document) :
    ¬ drafts.holds (drafts.begin document).1 := by
  simp [holds, begin]

theorem holds_begun
    (drafts : Drafts)
    (document : Document) :
    (drafts.begin document).2.holds (drafts.begin document).1 := by
  simp [holds, begin]

end Drafts

namespace Session

/--
The draft that a step lets grow, and by what: an argument counts as what it is before the
step, and an argument without a document form lets nothing grow.
-/
def Step.growth? (drafts : Drafts) : Step → Option (Draft × Document)
  | .append receiver other => some (receiver, drafts.read other)
  | .extend receiver value =>
      ((drafts.settle value).toDocument.toOption).map fun more => (receiver, more)
  | _ => none

/-- The existing draft that a step answers with: its receiver, or the draft to convert. -/
def Step.named? : Step → Option Draft
  | .append receiver _ => some receiver
  | .extend receiver _ => some receiver
  | .convert value =>
      match value.convert with
      | .ok (.inl draft) => some draft
      | _ => none
  | _ => none

/-- All that a step can do to the drafts, with its answer. -/
inductive Touches (drafts : Drafts) (step : Step) : Except Fault Answer → Drafts → Prop where
  | nothing
      {answer : Except Fault Answer}
      (still : step.growth? drafts = none)
      (known : ∀ draft, answer = .ok (.draft draft) → step.named? = some draft) :
      Touches drafts step answer drafts
  | begun
      (document : Document)
      (still : step.growth? drafts = none) :
      Touches drafts step (.ok (.draft (drafts.begin document).1)) (drafts.begin document).2
  | grown
      {receiver : Draft}
      {more : Document}
      (grows : step.growth? drafts = some (receiver, more))
      (known : step.named? = some receiver) :
      Touches drafts step (.ok (.draft receiver)) (drafts.append receiver more)

namespace Touches

variable {session : Session} {step : Step}

theorem refused
    (still : step.growth? session.drafts = none)
    (fault : Fault) :
    Touches session.drafts step (session.refused fault).answer
      (session.refused fault).session.drafts :=
  .nothing still (by simp [Session.refused])

/-- Compiling begins one draft at most, and touches no other. -/
theorem compile
    (still : step.growth? session.drafts = none)
    (template : Text)
    (site : Option Token)
    (arguments : Option (List (Text × Value Draft))) :
    Touches session.drafts step (session.compile template site arguments).answer
      (session.compile template site arguments).session.drafts := by
  unfold Session.compile
  dsimp only
  split
  · exact refused still _
  · exact .begun _ still

theorem plain
    (still : step.growth? session.drafts = none)
    (draft : Draft)
    (spacing : Spacing)
    (say : Text → Text) :
    Touches session.drafts step (session.plain draft spacing say).answer
      (session.plain draft spacing say).session.drafts := by
  unfold Session.plain
  split
  · exact refused still _
  · exact .nothing still (by simp [answered])

theorem finishDebug
    (still : step.growth? session.drafts = none)
    (registry : RegistryId)
    (result : Render.DebugResult)
    {answer : Shelf → List (Render.Segment Ink) → Answer × Shelf}
    (noDraft : ∀ shelf segments draft, (answer shelf segments).1 ≠ .draft draft) :
    Touches session.drafts step (session.finishDebug registry result answer).answer
      (session.finishDebug registry result answer).session.drafts := by
  unfold Session.finishDebug
  dsimp only
  split
  · exact .nothing still (by simp)
  · apply Touches.nothing still
    intro draft given
    exact (noDraft _ _ draft (Except.ok.inj given)).elim

theorem use
    (still : step.growth? session.drafts = none)
    (id : RendererId)
    (document : Document) :
    Touches session.drafts step (session.use id document).answer
      (session.use id document).session.drafts := by
  unfold Session.use
  split
  · exact refused still _
  · dsimp only
    split
    · exact .nothing still (by simp [Session.refused])
    · exact .nothing still (by simp [answered])
  · next renderer registry _ =>
      let later := session.setRenderer id
        (.debug (renderer.render (session.registries.get registry) session.shelf document).2
          registry)
      have sameStill : step.growth? later.drafts = none := still
      exact finishDebug sameStill registry _ (by simp [asSegments])

end Touches

/-- What a step may do to the drafts, for every kind of step. -/
theorem touches_run
    (session : Session)
    (step : Step) :
    Touches session.drafts step (session.run step).answer (session.run step).session.drafts := by
  cases step with
  | begin document => exact .begun document rfl
  | ofText text => exact .begun _ rfl
  | compile template site arguments => exact .compile rfl template site arguments
  | compileIn frame template arguments =>
      let named := session.registries.callToken .shared frame
      have still :
          (Step.compileIn frame template arguments).growth?
            ({ session with registries := named.2 } : Session).drafts = none := rfl
      exact Touches.compile still template (some named.1) (some arguments)
  | convert value =>
      simp only [run, Drafts.convert]
      cases converted : value.convert with
      | error typeName => exact .refused rfl _
      | ok found =>
          cases found with
          | inl draft =>
              apply Touches.nothing rfl
              intro same given
              cases given
              simp only [Step.named?, converted]
          | inr document => exact .begun document rfl
  | ofValues values =>
      simp only [run]
      split
      · exact .refused rfl _
      · exact .begun _ rfl
  | join left right =>
      simp only [run]
      split
      · exact .refused rfl _
      · exact .begun _ rfl
  | append receiver other => exact .grown rfl rfl
  | extend receiver value =>
      cases converted : (session.drafts.settle value).toDocument with
      | error typeName =>
          simp only [run, converted]
          exact .refused (by simp [Step.growth?, converted, Except.toOption]) _
      | ok document =>
          simp only [run, converted]
          exact .grown (by simp [Step.growth?, converted, Except.toOption]) rfl
  | plain draft spacing => exact .plain rfl draft spacing id
  | describe draft => exact .plain rfl draft .standard description
  | segments draft spacing tracing registry | terminal draft spacing tracing registry
  | styled draft spacing tracing registry =>
      exact .finishDebug rfl registry _ (by simp [asSegments, asTerminal, asStyled])
  | use renderer draft => exact .use rfl renderer _
  | _ => exact .nothing rfl (by simp [run, answered, giveColour, keep])

/-- What a step does to the drafts that existed before it. -/
structure Isolated (before : Session) (step : Step) (outcome : Outcome) : Prop where
  held : ∀ {draft},
    before.drafts.holds draft → outcome.session.drafts.holds draft
  /-- The receiver grows, and the answer names it. -/
  receiver : ∀ {draft more},
    step.growth? before.drafts = some (draft, more) →
    before.drafts.holds draft →
    outcome.answer = .ok (.draft draft) ∧
      outcome.session.drafts.read draft = before.drafts.read draft ++ more
  /-- Every other draft keeps what it holds. -/
  others : ∀ {draft},
    (∀ more, step.growth? before.drafts ≠ some (draft, more)) →
    before.drafts.holds draft →
    outcome.session.drafts.read draft = before.drafts.read draft
  /-- A step that fails changes no draft. -/
  refused : ∀ {fault},
    outcome.answer = .error fault → outcome.session.drafts = before.drafts
  /-- A draft that is answered is the one that the step names, or a new one. -/
  answered : ∀ {draft},
    outcome.answer = .ok (.draft draft) →
    step.named? = some draft ∨
      (¬ before.drafts.holds draft ∧ outcome.session.drafts.holds draft)

/-- A step that touches the drafts as it may is isolated. -/
theorem Touches.isolated
    {before : Session}
    {step : Step}
    {outcome : Outcome}
    (touches : Touches before.drafts step outcome.answer outcome.session.drafts) :
    before.Isolated step outcome := by
  rcases outcome with ⟨answer, notes, after⟩
  rcases after with ⟨drafts, registries, shelf, renderers⟩
  dsimp only at touches
  cases touches with
  | nothing still known =>
      constructor
      · exact fun held => held
      · intro draft more grows
        cases still.symm.trans grows
      · exact fun _ _ => rfl
      · exact fun _ => rfl
      · exact fun given => .inl (known _ given)
  | begun document still =>
      constructor
      · exact fun held => Drafts.holds_begin held document
      · intro draft more grows
        cases still.symm.trans grows
      · exact fun _ held => Drafts.read_begin_of_holds held document
      · intro fault given
        cases given
      · intro draft given
        cases given
        exact .inr ⟨Drafts.not_holds_begun _ document, Drafts.holds_begun _ document⟩
  | @grown receiver more grows known =>
      constructor
      · exact fun held => Drafts.holds_append held receiver more
      · intro draft found growth held
        cases grows.symm.trans growth
        exact ⟨rfl, Drafts.read_append_self held more⟩
      · intro draft other held
        apply Drafts.read_append_of_ne
        rintro rfl
        exact other more grows
      · intro fault given
        cases given
      · intro draft given
        cases given
        exact .inl known

/-- Every step is isolated: the drafts it does not grow read as before. -/
theorem isolated_run
    (session : Session)
    (step : Step) :
    session.Isolated step (session.run step) :=
  (touches_run session step).isolated

/-- A session after some steps. -/
def after (session : Session) : List Step → Session
  | [] => session
  | step :: rest => (session.run step).session.after rest

/-- What a step appends to a draft. -/
def appended (drafts : Drafts) (step : Step) (draft : Draft) : Document :=
  match step.growth? drafts with
  | some (receiver, more) => if receiver = draft then more else []
  | none => []

/-- What several steps append to a draft, in their order. -/
def appendedAll (session : Session) (draft : Draft) : List Step → Document
  | [] => []
  | step :: rest =>
      appended session.drafts step draft ++ (session.run step).session.appendedAll draft rest

/-- After a step a draft reads as it did, with what that step appended. -/
theorem read_run
    {session : Session}
    {draft : Draft}
    (held : session.drafts.holds draft)
    (step : Step) :
    (session.run step).session.drafts.read draft =
      session.drafts.read draft ++ appended session.drafts step draft := by
  have isolated := isolated_run session step
  unfold appended
  cases growth : step.growth? session.drafts with
  | none =>
      rw [isolated.others (by simp [growth]) held, List.append_nil]
  | some found =>
      rcases found with ⟨receiver, more⟩
      by_cases same : receiver = draft
      · subst same
        rw [(isolated.receiver growth held).2]
        simp
      · rw [isolated.others _ held]
        · simp [same]
        · intro other
          simp [growth, same]

/-- After any steps a draft reads as it did, with all that they appended to it. -/
theorem read_after
    {session : Session}
    {draft : Draft}
    (held : session.drafts.holds draft)
    (steps : List Step) :
    (session.after steps).drafts.read draft =
      session.drafts.read draft ++ session.appendedAll draft steps := by
  induction steps generalizing session with
  | nil => simp [after, appendedAll]
  | cons step rest inductionHypothesis =>
      have stillHeld := (isolated_run session step).held held
      rw [after, inductionHypothesis stillHeld, read_run held, appendedAll, List.append_assoc]

/-- The step at an index is run on what the steps before it leave. -/
theorem runAll_getElem?
    (session : Session)
    (steps : List Step)
    (index : Nat) :
    (session.runAll steps)[index]? =
      steps[index]?.map fun step => (session.after (steps.take index)).run step := by
  induction steps generalizing session index with
  | nil => simp [runAll]
  | cons step rest inductionHypothesis =>
      cases index with
      | zero => simp [runAll, after]
      | succ index => simp [runAll, after, inductionHypothesis]

/--
No draft leaks into another, whatever a program does.  At every step of a run the receiver
of what is appended grows by what was there before the step, and no other draft that exists
by then changes, be it made from the receiver or from the argument; a step that fails
changes none.  So a draft holds in the end what it held at first, and behind it what was
appended to this very draft.
-/
theorem isolated_runAll
    (session : Session)
    (steps : List Step) :
    (∀ {index outcome},
      (session.runAll steps)[index]? = some outcome →
      ∃ step,
        steps[index]? = some step ∧
        (session.after (steps.take index)).Isolated step outcome) ∧
    ∀ {draft},
      session.drafts.holds draft →
      (session.after steps).drafts.read draft =
        session.drafts.read draft ++ session.appendedAll draft steps := by
  constructor
  · intro index outcome reached
    rw [runAll_getElem?] at reached
    rcases Option.map_eq_some_iff.mp reached with ⟨step, here, rfl⟩
    exact ⟨step, here, isolated_run _ step⟩
  · intro draft held
    exact read_after held steps

/-- A session in which the second draft nests the first one. -/
def nesting : Session :=
  Session.after {}
    [.ofText "a".toList, .compile "$x".toList none (some [("x".toList, .document ⟨0⟩)])]

/-- The first draft grows by itself, and then the second one fails to grow. -/
def growingFirst : List Step :=
  [.convert (.document ⟨0⟩), .append ⟨0⟩ ⟨0⟩, .extend ⟨1⟩ .null]

/-- A draft that grows after it was put in a block: the block keeps what it was given. -/
theorem read_growingFirst :
    nesting.drafts.holds ⟨0⟩ ∧ nesting.drafts.holds ⟨1⟩ ∧
    (nesting.after growingFirst).drafts.read ⟨0⟩ = [.owned "a".toList, .owned "a".toList] ∧
    (nesting.after growingFirst).drafts.read ⟨1⟩ = [.block [.owned "a".toList]] ∧
    ∃ outcome,
      (nesting.runAll growingFirst)[2]? = some outcome ∧
      outcome.session.drafts = (nesting.after (growingFirst.take 2)).drafts := by
  have first : nesting.drafts.holds ⟨0⟩ := by
    change 0 < nesting.drafts.documents.size
    decide +kernel
  have second : nesting.drafts.holds ⟨1⟩ := by
    change 1 < nesting.drafts.documents.size
    decide +kernel
  have failing :
      (nesting.runAll growingFirst)[2]? =
        some ((nesting.after (growingFirst.take 2)).run (.extend ⟨1⟩ .null)) := by
    rw [runAll_getElem?]
    rfl
  rcases isolated_runAll nesting growingFirst with ⟨eachIsolated, reads⟩
  refine ⟨first, second, ?_, ?_, _, failing, ?_⟩
  · rw [reads first]
    rfl
  · rw [reads second]
    rfl
  · rcases eachIsolated failing with ⟨_, _, isolated⟩
    exact isolated.refused rfl

end Session

end Splice
