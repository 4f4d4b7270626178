import Splice.Proofs.Render.Showing
import Splice.Proofs.Session.Colouring

namespace Splice.Session

/-!
# What is written for a terminal

An ink keeps the codes that it is written with for each system, and inks are kept for as long
as a session lasts.  All that is kept of an ink is a matter of its style, though, so the text for
a terminal is made from the document, the settings and the colours of the registry alone, as
long as the emphasis is no link (`answer_terminal_congr`).

`shelves_run` says once what a step can do to the shelf.
-/

/-- All that a step can do to the shelf. -/
inductive Shelves (session : Session) (step : Step) : Shelf → Prop where
  | untouched : Shelves session step session.shelf
  | drawn
      {drawing : Drawing}
      (asked : session.drawing? step = some drawing) :
      Shelves session step (session.drawn drawing).shelf
  | written
      {drawing : Drawing}
      (asked : session.drawing? step = some drawing)
      {segments : List (Render.Segment Ink)}
      (drew : (session.drawn drawing).segments = .ok segments)
      (system : ColourSystem) :
      Shelves session step (Render.ansi system (session.drawn drawing).shelf segments).2

variable {session : Session}

namespace Shelves

variable {step : Step}

theorem same
    {shelf : Shelf}
    (unchanged : shelf = session.shelf) :
    Shelves session step shelf := by
  rw [unchanged]
  exact .untouched

/-- What becomes of a drawing leaves its shelf, and so does a drawing that fails. -/
theorem finishDebug
    {drawing : Drawing}
    (asked : session.drawing? step = some drawing)
    (later : Session)
    {answer : Shelf → List (Render.Segment Ink) → Answer × Shelf}
    (leaves : ∀ segments,
      (session.drawn drawing).segments = .ok segments →
      Shelves session step (answer (session.drawn drawing).shelf segments).2) :
    Shelves session step
      (later.finishDebug drawing.registry (session.drawn drawing) answer).session.shelf := by
  rw [session_finishDebug]
  cases drew : (session.drawn drawing).segments with
  | error fault => exact .drawn asked
  | ok segments => exact leaves segments drew

theorem use
    (id : RendererId)
    (draft : Draft) :
    Shelves session (.use id draft)
      (session.use id (session.drafts.read draft)).session.shelf := by
  cases kept : session.renderers[id.number]? with
  | none =>
      simp only [Session.use, kept]
      exact .untouched
  | some renderer =>
      cases renderer with
      | plain renderer =>
          simp only [Session.use, kept]
          split <;> exact .untouched
      | debug renderer registry =>
          have asked :
              session.drawing? (.use id draft) =
                some ⟨registry, renderer.spacing, renderer.tracing, session.drafts.read draft⟩ := by
            simp only [drawing?, kept]
          simp only [Session.use, kept]
          rw [Render.DebugRenderer.render_eq_debug]
          exact finishDebug asked _ fun _ _ => .drawn asked

end Shelves

theorem shelf_compile
    (session : Session)
    (template : Text)
    (site : Option Token)
    (arguments : Option (List (Text × Value Draft))) :
    (session.compile template site arguments).session.shelf = session.shelf := by
  rcases session.session_compile template site arguments with ⟨drafts, left⟩
  rw [left]

theorem shelves_run
    (session : Session)
    (step : Step) :
    Shelves session step (session.run step).session.shelf := by
  cases step with
  | compile template site arguments => exact .same (shelf_compile session template site arguments)
  | compileIn frame template arguments => exact .same (shelf_compile _ _ _ _)
  | convert value | ofValues values | join left right | extend receiver value =>
      simp only [run]
      split <;> exact .untouched
  | plain draft spacing | describe draft =>
      exact .same (congrArg Session.shelf (session_plain session draft _ _))
  | segments draft spacing tracing registry =>
      have asked :
          session.drawing? (.segments draft spacing tracing registry) =
            some ⟨registry, spacing, tracing, session.drafts.read draft⟩ := rfl
      exact .finishDebug asked session fun _ _ => .drawn asked
  | styled draft spacing tracing registry =>
      have asked :
          session.drawing? (.styled draft spacing tracing registry) =
            some ⟨registry, spacing, tracing, session.drafts.read draft⟩ := rfl
      exact .finishDebug asked session fun _ _ => .drawn asked
  | terminal draft spacing tracing registry =>
      have asked :
          session.drawing? (.terminal draft spacing tracing registry) =
            some ⟨registry, spacing, tracing, session.drafts.read draft⟩ := rfl
      exact .finishDebug asked session fun _ drew => .written asked drew tracing.system
  | use renderer draft => exact .use renderer draft
  | _ => exact .untouched

/-- A step keeps the shelf booked. -/
theorem booked_run
    {rolls : Nat → Nat}
    {ledger : List Style}
    (booked : session.shelf.Booked rolls ledger)
    (step : Step) :
    ∃ later, (session.run step).session.shelf.Booked rolls later := by
  have shelves := shelves_run session step
  generalize (session.run step).session.shelf = shelf at shelves
  have drawnBooked (drawing : Drawing) :=
    Render.booked_debug booked drawing.spacing drawing.tracing
      (session.registries.get drawing.registry) drawing.document
  cases shelves with
  | untouched => exact ⟨ledger, booked⟩
  | @drawn drawing asked =>
      rcases drawnBooked drawing with ⟨later, left, _⟩
      exact ⟨later, left⟩
  | @written drawing asked segments drew system =>
      rcases drawnBooked drawing with ⟨later, left, listed⟩
      have joinedListed := Render.listedIn_joined (listed segments drew)
      exact ⟨later, Render.booked_writeAll left system joinedListed⟩

/-- A run keeps the shelf booked. -/
theorem booked_after
    {rolls : Nat → Nat}
    {ledger : List Style}
    (booked : session.shelf.Booked rolls ledger)
    (steps : List Step) :
    ∃ later, (session.after steps).shelf.Booked rolls later := by
  induction steps generalizing session ledger with
  | nil => exact ⟨ledger, booked⟩
  | cons step rest inductionHypothesis =>
      rcases booked_run booked step with ⟨middle, first⟩
      exact inductionHypothesis first

/-- The text for a terminal shows the segments in the codes of their styles. -/
theorem answer_terminal
    {steps : List Step}
    {draft : Draft}
    {spacing : Spacing}
    {tracing : Tracing}
    {registry : RegistryId}
    {drawing : Drawing}
    (asked :
      (Session.after {} steps).drawing? (.terminal draft spacing tracing registry) = some drawing)
    (noLink : tracing.boundary.link = none) :
    ((Session.after {} steps).run (.terminal draft spacing tracing registry)).answer =
      match ((Session.after {} steps).drawn drawing).segments with
      | .error fault => .error (.reference fault)
      | .ok segments => .ok (.text (Render.painted tracing.system segments)) := by
  have empty : ({} : Session).shelf.Booked _ _ := .of_empty _
  have sound : (Session.after {} steps).shelf.Sound := sound_shelf_after .of_empty steps
  rcases booked_after empty steps with ⟨ledger, booked⟩
  rcases Render.booked_debug booked drawing.spacing drawing.tracing
    ((Session.after {} steps).registries.get drawing.registry) drawing.document with
    ⟨later, left, listed⟩
  rw [answer_of_drawing? asked]
  cases asked
  cases drew : ((Session.after {} steps).drawn
      ⟨registry, spacing, tracing, (Session.after {} steps).drafts.read draft⟩).segments with
  | error fault => rfl
  | ok segments =>
      have unlinked := Render.unlinked_debug sound drew noLink
      have written : (Render.ansi tracing.system _ segments).1 = _ :=
        Render.ansi_eq_painted left (listed segments drew) unlinked
      exact congrArg (fun text => Except.ok (Answer.text text)) written

/--
What is written for a terminal depends on the document, the settings and the colours that the
registry holds, and on nothing else that two sessions did before, whatever they drew and for
whichever systems they wrote, as long as the emphasis is no link.
-/
theorem answer_terminal_congr
    {steps otherSteps : List Step}
    {draft otherDraft : Draft}
    {spacing : Spacing}
    {tracing : Tracing}
    {registry otherRegistry : RegistryId}
    {document : Document}
    (holds : (Session.after {} steps).drafts.read draft = document)
    (otherHolds : (Session.after {} otherSteps).drafts.read otherDraft = document)
    (sameColours : ∀ token,
      ((Session.after {} steps).registries.get registry).colour? token =
        ((Session.after {} otherSteps).registries.get otherRegistry).colour? token)
    (noLink : tracing.boundary.link = none) :
    ((Session.after {} steps).run (.terminal draft spacing tracing registry)).answer =
      ((Session.after {} otherSteps).run
        (.terminal otherDraft spacing tracing otherRegistry)).answer := by
  subst holds
  have asked :
      (Session.after {} otherSteps).drawing?
          (.terminal otherDraft spacing tracing otherRegistry) =
        some ⟨otherRegistry, spacing, tracing, (Session.after {} steps).drafts.read draft⟩ := by
    simp only [drawing?, otherHolds]
  rw [answer_terminal rfl noLink, answer_terminal asked noLink]
  have inOrder := inOrder_of_steps steps registry
  have otherInOrder := inOrder_of_steps otherSteps otherRegistry
  have sameList := inOrder.coloured_eq otherInOrder sameColours
  have sound : (Session.after {} steps).shelf.Sound := sound_shelf_after .of_empty steps
  have otherSound : (Session.after {} otherSteps).shelf.Sound :=
    sound_shelf_after .of_empty otherSteps
  have sameLooks := Render.map_styled_debug_of_coloured spacing tracing sound otherSound inOrder
    otherInOrder sameList ((Session.after {} steps).drafts.read draft)
  unfold drawn
  dsimp only
  generalize (Render.debug spacing tracing _ (Session.after {} steps).shelf _).segments = first
    at sameLooks
  generalize (Render.debug spacing tracing _ (Session.after {} otherSteps).shelf _).segments =
    second at sameLooks
  cases first with
  | error fault =>
      cases second with
      | error other => cases sameLooks; rfl
      | ok segments => cases sameLooks
  | ok segments =>
      cases second with
      | error other => cases sameLooks
      | ok others =>
          exact congrArg (fun text => Except.ok (Answer.text text))
            (Render.painted_congr tracing.system (Except.ok.inj sameLooks))

/-- The text of an answer. -/
def Answer.text? : Except Fault Answer → Option Text
  | .ok (.text t) => some t
  | _ => none

/-- The first draft holds what it was begun with, until something is appended to it. -/
theorem read_first
    {session : Session}
    (noDrafts : session.drafts = {})
    {document : Document}
    {rest : List Step}
    (still : (session.after [.begin document]).appendedAll ⟨0⟩ rest = []) :
    (session.after (.begin document :: rest)).drafts.read ⟨0⟩ = document := by
  have begun : (session.after [.begin document]).drafts = ((({} : Drafts).begin document).2) :=
    congrArg (fun drafts : Drafts => (drafts.begin document).2) noDrafts
  have held : (session.after [.begin document]).drafts.holds ⟨0⟩ := by
    rw [begun]
    exact Nat.zero_lt_one
  have grown := read_after held rest
  rw [still, List.append_nil, begun] at grown
  exact grown.trans (Drafts.read_begin_self {} document)

/-- A text inside a block. -/
def splicedText : Document :=
  [.block [.owned "x".toList]]

/-- Settings for a system, with an emphasis that has other codes under the standard one. -/
def pink (system : ColourSystem) : Tracing where
  legendTitle := "Provenance".toList
  system := system
  definition := "color(200)".toList
  boundary := { foreground := some ⟨"color(200)".toList, .numbered 200⟩ }
  defined := by decide +kernel

/-- A session that writes for each of the systems. -/
def writingBefore : List Step :=
  [.begin splicedText, .terminal ⟨0⟩ .standard (pink .eightBit) .shared,
    .terminal ⟨0⟩ .standard (pink .trueColour) .shared,
    .terminal ⟨0⟩ .standard (pink .standard) .shared]

/-- The emphasis has the codes of the system at hand, also once others were written for. -/
theorem answer_terminal_writingBefore :
    (∀ token,
      ((Session.after {} writingBefore).registries.get .shared).colour? token =
        ((Session.after {} [.begin splicedText]).registries.get .shared).colour? token) ∧
    ((Session.after {} writingBefore).run
        (.terminal ⟨0⟩ .standard (pink .standard) .shared)).answer =
      ((Session.after {} [.begin splicedText]).run
        (.terminal ⟨0⟩ .standard (pink .standard) .shared)).answer ∧
    Answer.text? ((Session.after {} writingBefore).run
        (.terminal ⟨0⟩ .standard (pink .standard) .shared)).answer =
      some "\x1b[35mx\x1b[0m\n\n\x1b[1mProvenance:\x1b[0m\n".toList ∧
    Answer.text? ((Session.after {} writingBefore).run
        (.terminal ⟨0⟩ .standard (pink .eightBit) .shared)).answer =
      some "\x1b[38;5;200mx\x1b[0m\n\n\x1b[1mProvenance:\x1b[0m\n".toList := by
  have sameSlots :
      ((Session.after {} writingBefore).registries.get .shared).slots =
        ((Session.after {} [.begin splicedText]).registries.get .shared).slots := by
    rw [slots_of_steps, slots_of_steps]
    decide +kernel
  have sameColours : ∀ token,
      ((Session.after {} writingBefore).registries.get .shared).colour? token =
        ((Session.after {} [.begin splicedText]).registries.get .shared).colour? token :=
    fun token => by simp only [Registry.colour?, sameSlots]
  have holds : (Session.after {} writingBefore).drafts.read ⟨0⟩ = splicedText :=
    read_first rfl rfl
  have otherHolds : (Session.after {} [.begin splicedText]).drafts.read ⟨0⟩ = splicedText :=
    read_first rfl rfl
  refine ⟨sameColours, answer_terminal_congr holds otherHolds sameColours rfl, ?_, ?_⟩
  · decide +kernel
  · decide +kernel

end Splice.Session
