import Splice.Proofs.Render.DebugStyles
import Splice.Session.Run

namespace Splice

/-!
# Styles in a session

Only debug rendering and writing for a terminal use the shelf of a session, so a shelf that
is sound stays sound through every step, also through one that fails.  Whatever a session
did before, its debug renderings therefore show the styles that the documents ask for.
-/

theorem Render.sound_writeAll
    (system : ColourSystem)
    {shelf : Shelf}
    (sound : shelf.Sound)
    (segments : List (Segment Ink)) :
    (writeAll system shelf segments).2.Sound := by
  induction segments generalizing shelf with
  | nil => exact sound
  | cons segment rest inductionHypothesis =>
      rcases segment with ⟨text, ink⟩
      cases ink with
      | none => exact inductionHypothesis sound
      | some ink => exact inductionHypothesis (sound.write system ink text)

namespace Session

variable {session : Session}

theorem sound_compile
    (sound : session.shelf.Sound)
    (template : Text)
    (site : Option Token)
    (arguments : Option (List (Text × Value Draft))) :
    (session.compile template site arguments).session.shelf.Sound := by
  rcases session.session_compile template site arguments with ⟨drafts, left⟩
  rw [left]
  exact sound

/-- What becomes of segments may use the shelf, but it leaves a sound one. -/
theorem sound_finishDebug
    (registry : RegistryId)
    {result : Render.DebugResult}
    (sound : result.shelf.Sound)
    {answer : Shelf → List (Render.Segment Ink) → Answer × Shelf}
    (answers : ∀ {shelf : Shelf} segments, shelf.Sound → (answer shelf segments).2.Sound) :
    (session.finishDebug registry result answer).session.shelf.Sound := by
  rw [session_finishDebug]
  dsimp only
  split
  · exact sound
  · exact answers _ sound

theorem sound_debug
    (sound : session.shelf.Sound)
    (draft : Draft)
    (spacing : Spacing)
    (tracing : Tracing)
    (registry : RegistryId)
    {answer : Shelf → List (Render.Segment Ink) → Answer × Shelf}
    (answers : ∀ {shelf : Shelf} segments, shelf.Sound → (answer shelf segments).2.Sound) :
    (session.debug draft spacing tracing registry answer).session.shelf.Sound := by
  apply sound_finishDebug registry _ answers
  exact Render.DebugRenderer.sound_render _ _ sound _

theorem sound_use
    (sound : session.shelf.Sound)
    (id : RendererId)
    (document : Document) :
    (session.use id document).session.shelf.Sound := by
  unfold use
  split
  · exact sound
  · dsimp only
    split <;> exact sound
  · next renderer registry _ =>
      apply sound_finishDebug registry
      · exact renderer.sound_render _ sound document
      · intro shelf segments shelfSound
        exact shelfSound

/-- No step spoils the shelf. -/
theorem sound_shelf_run
    (sound : session.shelf.Sound)
    (step : Step) :
    (session.run step).session.shelf.Sound := by
  cases step with
  | compile template site arguments => exact sound_compile sound template site arguments
  | compileIn frame template arguments =>
      let named := session.registries.callToken .shared frame
      have sameShelf : ({ session with registries := named.2 } : Session).shelf.Sound := sound
      exact sound_compile sameShelf template (some named.1) (some arguments)
  | convert value | ofValues values | join left right | extend receiver value =>
      simp only [run]
      split <;> exact sound
  | plain draft spacing | describe draft =>
      simp only [run, session_plain]
      exact sound
  | segments draft spacing tracing registry | styled draft spacing tracing registry =>
      apply sound_debug sound
      intro shelf segments shelfSound
      exact shelfSound
  | terminal draft spacing tracing registry =>
      apply sound_debug sound
      intro shelf segments shelfSound
      exact Render.sound_writeAll tracing.system shelfSound (Render.joined segments)
  | use renderer draft => exact sound_use sound renderer _
  | _ => exact sound

theorem sound_shelf_runAll
    (sound : session.shelf.Sound)
    {steps : List Step}
    {outcome : Outcome}
    (reached : outcome ∈ session.runAll steps) :
    outcome.session.shelf.Sound := by
  induction steps generalizing session with
  | nil => cases reached
  | cons step rest inductionHypothesis =>
      have first := sound_shelf_run sound step
      rcases List.mem_cons.mp reached with rfl | later
      · exact first
      · exact inductionHypothesis first later

/--
At any moment of a session, a document that renders has a debug rendering, and its body is
the styled layout of the document under the spacing rules, in the colours that the registry
has once every place of the document has its colour.  A block leaves the style of what
follows it alone, since only a marker changes it, and every text inside a block shows the
emphasis.
-/
theorem styled_of_runAll
    {steps : List Step}
    {outcome : Outcome}
    (reached : outcome ∈ Session.runAll {} steps)
    {rules : Spacing}
    {document : Document}
    {text : Text}
    (renders : Render.plain rules document = .ok text)
    (spacing : Spacing)
    (tracing : Tracing)
    (registry : Registry) :
    (∃ body seen,
      (Render.debug spacing tracing registry outcome.session.shelf document).segments =
        .ok (Render.withLegend tracing seen body) ∧
      body.map Render.Segment.styled =
        Render.collapseStyled spacing ((Scheme.after tracing registry document).layout document) ∧
      seen.map (fun entry => (entry.1, entry.2.style)) =
        document.places.map fun token =>
          (token, (Scheme.after tracing registry document).colours token)) ∧
    (Render.debug spacing tracing registry outcome.session.shelf document).registry =
      registry.colourAll document.places ∧
    ((Scheme.after tracing registry document).layout document).map StyledLine.text =
      document.layout ∧
    (∀ line ∈ (Scheme.after tracing registry document).layout document,
      ∀ stretch ∈ line.stretches,
        0 < stretch.depth → stretch.style.under tracing.boundary = stretch.style) ∧
    ∀ outside depth sequence index,
      (∀ token, sequence[index]? ≠ some (.marker token)) →
      (Scheme.after tracing registry document).styleAt outside depth sequence (index + 1) =
        (Scheme.after tracing registry document).styleAt outside depth sequence index := by
  have sound := sound_shelf_runAll .of_empty reached
  have resolves := Render.resolves_of_plain renders
  rcases Render.debug_of_resolves spacing tracing registry outcome.session.shelf resolves with
    ⟨segments, rendered⟩
  rcases Render.styled_debug sound rendered with ⟨registered, body, seen, rfl, styled, listed⟩
  refine ⟨⟨body, seen, rendered, styled, listed⟩, registered, Scheme.layout_styled _ document,
    ?_, ?_⟩
  · intro line member stretch onLine nested
    exact Scheme.under_boundary_of_mem_layout member onLine nested
  · intro outside depth sequence index notMarker
    exact Scheme.styleAt_succ_of_not_marker notMarker outside depth

/-- The place that `tracedCall` comes from, and the place of its argument. -/
def callSite : Token := ⟨1, "a.py".toList, 3, 1⟩

def argumentSite : Token := ⟨2, "b.py".toList, 8, 5⟩

/-- Black text on a numbered colour. -/
def blackOn (n : Nat) : Style where
  foreground := some ⟨"black".toList, .numbered 0⟩
  background := some (Colour.numbered n)

/-- The steps of a session that begins `tracedCall` as a draft and renders it. -/
def tracingSteps : List Step :=
  [.begin Render.tracedCall, .segments ⟨0⟩ .standard .standard .shared]

theorem exists_mem_runAll_tracingSteps : ∃ outcome, outcome ∈ Session.runAll {} tracingSteps :=
  List.exists_mem_of_ne_nil _ (by simp [tracingSteps, runAll])

theorem layout_tracedCall
    (scheme : Scheme) :
    scheme.layout Render.tracedCall =
      [⟨0, [⟨"f(".toList, scheme.colours callSite, 0⟩,
          ⟨"x".toList, (scheme.colours argumentSite).under scheme.boundary, 1⟩,
          ⟨", ".toList, scheme.colours callSite, 0⟩,
          ⟨"x".toList, (scheme.colours argumentSite).under scheme.boundary, 1⟩,
          ⟨")".toList, scheme.colours callSite, 0⟩]⟩,
        ⟨0, []⟩] := by
  simp [Scheme.layout, Scheme.layFrom_unfold, Render.tracedCall, Document.spliced?,
    Document.resolve?, Except.toOption, StyledPage.put, StyledPage.write, StyledPage.breakLine,
    StyledPage.lines, StyledPage.blank, Scheme.styleAt, Scheme.styleOf, Document.lastToken?,
    callSite, argumentSite]

/--
In `tracedCall` both uses of the argument show its colour with the emphasis, and the text
between and behind them is drawn as the text before them.
-/
theorem styled_tracedCall :
    Render.plain .standard Render.tracedCall = .ok "f(x, x)\n".toList ∧
    ∃ outcome ∈ Session.runAll {} tracingSteps, ∃ body seen,
      (Render.debug .standard .standard {} outcome.session.shelf Render.tracedCall).segments =
        .ok (Render.withLegend .standard seen body) ∧
      body.map Render.Segment.styled =
        [⟨"f(".toList, some (blackOn 1)⟩,
          ⟨"x".toList, some ((blackOn 2).set .underline true)⟩,
          ⟨", ".toList, some (blackOn 1)⟩,
          ⟨"x".toList, some ((blackOn 2).set .underline true)⟩,
          ⟨")".toList, some (blackOn 1)⟩,
          ⟨"\n".toList, none⟩] := by
  rcases exists_mem_runAll_tracingSteps with ⟨outcome, reached⟩
  rcases (styled_of_runAll reached Render.plain_tracedCall .standard .standard {}).1 with
    ⟨body, seen, rendered, styled, _⟩
  refine ⟨Render.plain_tracedCall, outcome, reached, body, seen, rendered, ?_⟩
  have outer :
      (Scheme.after .standard {} Render.tracedCall).colours callSite = blackOn 1 := by
    decide +kernel
  have inner :
      ((Scheme.after .standard {} Render.tracedCall).colours argumentSite).under
          (Scheme.after .standard {} Render.tracedCall).boundary =
        (blackOn 2).set .underline true := by
    decide +kernel
  rw [styled, layout_tracedCall, outer, inner]
  generalize blackOn 1 = outerStyle
  generalize (blackOn 2).set .underline true = innerStyle
  rfl

end Session

end Splice
