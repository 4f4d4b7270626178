import Splice.Render.Ansi
import Splice.Session.Step

namespace Splice

/-!
# Running a session

A session is everything that lasts from one step to the next: the drafts, the
registries, the inks and the renderers that were kept.  A step that fails is
answered with a fault and the session goes on; what the step did before it
failed, such as giving colours, stays done.
-/

/-- A renderer that is kept for more than one use. -/
inductive Session.Renderer where
  | plain (renderer : Render.PlainRenderer)
  | debug (renderer : Render.DebugRenderer) (registry : RegistryId)

/-- Everything that lasts from one step to the next. -/
structure Session where
  drafts : Drafts := {}
  registries : Registries := {}
  shelf : Shelf := {}
  renderers : Array Session.Renderer := #[]

namespace Session

/-- What one step leads to: its answer, what was reported meanwhile, and the session from then on. -/
structure Outcome where
  answer : Except Fault Answer
  notes : List Note
  session : Session

/-- An answer without reports. -/
def answered (session : Session) (answer : Answer) : Outcome :=
  ⟨.ok answer, [], session⟩

/-- A fault without reports. -/
def refused (session : Session) (fault : Fault) : Outcome :=
  ⟨.error fault, [], session⟩

/-- A new draft is the answer. -/
def answeredDraft (session : Session) (document : Document) (notes : List Note) : Outcome :=
  let (draft, drafts) := session.drafts.begin document
  ⟨.ok (.draft draft), notes, { session with drafts := drafts }⟩

/-- A draft that grew is the answer. -/
def grown (session : Session) (receiver : Draft) (more : Document) : Outcome :=
  { session with drafts := session.drafts.append receiver more }.answered (.draft receiver)

/-- A value has no document form. -/
def unconvertible (session : Session) (typeName : String) : Outcome :=
  session.refused (.compilation (.unconvertible typeName))

/-- Give a token its colour. -/
def giveColour
    (session : Session)
    (registry : RegistryId)
    (token : Token)
    (answer : Nat → Answer) :
    Outcome :=
  let before := session.registries.get registry
  ⟨.ok (answer (before.colourOf token)), Channel.provenance.notes (before.notes token),
    { session with registries := session.registries.set registry (before.colour token) }⟩

/-- Compile a template with what the drafts among its arguments hold at this moment. -/
def compile
    (session : Session)
    (template : Text)
    (site : Option Token)
    (arguments : Option (List (Text × Value Draft))) :
    Outcome :=
  let settled := arguments.map fun pairs =>
    pairs.map fun pair => (pair.1, session.drafts.settle pair.2)
  match Template.compile template site settled with
  | .error fault => session.refused (.compilation fault)
  | .ok compilation =>
      session.answeredDraft compilation.document (Channel.compiler.notes (compilation.notes site))

/-- Keep what a debug rendering leaves, and answer with what becomes of its segments. -/
def finishDebug
    (session : Session)
    (registry : RegistryId)
    (result : Render.DebugResult)
    (answer : Shelf → List (Render.Segment Ink) → Answer × Shelf) :
    Outcome :=
  let registries := session.registries.set registry result.registry
  match result.segments with
  | .error fault =>
      ⟨.error (.reference fault), result.notes,
        { session with registries := registries, shelf := result.shelf }⟩
  | .ok segments =>
      let (given, shelf) := answer result.shelf segments
      ⟨.ok given, result.notes, { session with registries := registries, shelf := shelf }⟩

/-- Render the debug form of a draft. -/
def debug
    (session : Session)
    (draft : Draft)
    (spacing : Spacing)
    (tracing : Tracing)
    (registry : RegistryId)
    (answer : Shelf → List (Render.Segment Ink) → Answer × Shelf) :
    Outcome :=
  session.finishDebug registry
    (Render.debug spacing tracing (session.registries.get registry) session.shelf
      (session.drafts.read draft))
    answer

/-- Segments as they are. -/
def asSegments (shelf : Shelf) (segments : List (Render.Segment Ink)) : Answer × Shelf :=
  (.segments segments, shelf)

/-- Segments written for a terminal. -/
def asTerminal (system : ColourSystem) (shelf : Shelf) (segments : List (Render.Segment Ink)) :
    Answer × Shelf :=
  let (t, shelf) := Render.ansi system shelf segments
  (.text t, shelf)

/-- Segments as a text with spans. -/
def asStyled (shelf : Shelf) (segments : List (Render.Segment Ink)) : Answer × Shelf :=
  (.styled (Render.styledText segments), shelf)

/-- The text of a draft, and what is said with it. -/
def plain (session : Session) (draft : Draft) (spacing : Spacing) (say : Text → Text) : Outcome :=
  match Render.plain spacing (session.drafts.read draft) with
  | .error fault => session.refused (.reference fault)
  | .ok t => session.answered (.text (say t))

/-- The description of a document with the given text. -/
def description (t : Text) : Text :=
  "Document(".toList ++ Text.quoted t ++ [')']

/-- Keep a renderer. -/
def keep (session : Session) (renderer : Renderer) : Outcome :=
  { session with renderers := session.renderers.push renderer }.answered
    (.renderer ⟨session.renderers.size⟩)

/-- Replace a renderer by its later state. -/
def setRenderer (session : Session) (id : RendererId) (renderer : Renderer) : Session :=
  { session with renderers := session.renderers.setIfInBounds id.number renderer }

/-- Render a document with a renderer that was kept. -/
def use (session : Session) (id : RendererId) (document : Document) : Outcome :=
  match session.renderers[id.number]? with
  | none => session.refused (.noRenderer id)
  | some (.plain renderer) =>
      let (result, later) := renderer.render document
      let session := session.setRenderer id (.plain later)
      match result with
      | .error fault => session.refused (.reference fault)
      | .ok t => session.answered (.text t)
  | some (.debug renderer registry) =>
      let (result, later) :=
        renderer.render (session.registries.get registry) session.shelf document
      (session.setRenderer id (.debug later registry)).finishDebug registry result asSegments

/-- Run one step. -/
def run (session : Session) : Step → Outcome
  | .openRegistry =>
      let (registry, registries) := session.registries.create
      { session with registries := registries }.answered (.registry registry)
  | .register file line column =>
      let (token, registries) := session.registries.register file line column
      { session with registries := registries }.answered (.token token)
  | .registerSite registry site file line column =>
      let (token, registries) := session.registries.registerSite registry site file line column
      { session with registries := registries }.answered (.token token)
  | .findSite registry site =>
      session.answered (.site ((session.registries.get registry).site? site))
  | .colour registry token => session.giveColour registry token .colour
  | .isColoured registry token =>
      session.answered (.isColoured ((session.registries.get registry).isColoured token))
  | .style registry token =>
      session.giveColour registry token fun number => .style (Palette.style number)
  | .begin document => session.answeredDraft document []
  | .compile template site arguments => session.compile template site arguments
  | .compileIn frame template arguments =>
      let (token, registries) := session.registries.callToken .shared frame
      { session with registries := registries }.compile template (some token) (some arguments)
  | .convert value =>
      match session.drafts.convert value with
      | .error typeName => session.unconvertible typeName
      | .ok (draft, drafts) => { session with drafts := drafts }.answered (.draft draft)
  | .ofText text => session.answeredDraft (Document.ofText text) []
  | .ofValues values =>
      match Document.ofValues (values.map session.drafts.settle) with
      | .error typeName => session.unconvertible typeName
      | .ok document => session.answeredDraft document []
  | .join left right =>
      match (session.drafts.settle right).toDocument with
      | .error typeName => session.unconvertible typeName
      | .ok document => session.answeredDraft (session.drafts.read left ++ document) []
  | .append receiver other => session.grown receiver (session.drafts.read other)
  | .extend receiver value =>
      match (session.drafts.settle value).toDocument with
      | .error typeName => session.unconvertible typeName
      | .ok document => session.grown receiver document
  | .plain draft spacing => session.plain draft spacing id
  | .describe draft => session.plain draft .standard description
  | .segments draft spacing tracing registry =>
      session.debug draft spacing tracing registry asSegments
  | .terminal draft spacing tracing registry =>
      session.debug draft spacing tracing registry (asTerminal tracing.system)
  | .styled draft spacing tracing registry =>
      session.debug draft spacing tracing registry asStyled
  | .keepPlain spacing => session.keep (.plain { spacing := spacing })
  | .keepDebug spacing tracing registry =>
      session.keep (.debug { spacing := spacing, tracing := tracing } registry)
  | .use renderer draft => session.use renderer (session.drafts.read draft)

/-- Reading the text of a draft leaves the session as it is. -/
theorem session_plain
    (session : Session)
    (draft : Draft)
    (spacing : Spacing)
    (say : Text → Text) :
    (session.plain draft spacing say).session = session := by
  unfold plain
  split <;> rfl

/-- Compiling a template leaves everything but the drafts as it is. -/
theorem session_compile
    (session : Session)
    (template : Text)
    (site : Option Token)
    (arguments : Option (List (Text × Value Draft))) :
    ∃ drafts,
      (session.compile template site arguments).session = { session with drafts := drafts } := by
  unfold compile
  dsimp only
  split <;> exact ⟨_, rfl⟩

/-- What becomes of a debug rendering is its registry and a shelf. -/
theorem session_finishDebug
    (session : Session)
    (registry : RegistryId)
    (result : Render.DebugResult)
    (answer : Shelf → List (Render.Segment Ink) → Answer × Shelf) :
    (session.finishDebug registry result answer).session =
      { session with
        registries := session.registries.set registry result.registry
        shelf := match result.segments with
          | .error _ => result.shelf
          | .ok segments => (answer result.shelf segments).2 } := by
  unfold finishDebug
  dsimp only
  split <;> rfl

/-- Run steps one after another, and give every outcome. -/
def runAll (session : Session) : List Step → List Outcome
  | [] => []
  | step :: rest =>
      let outcome := session.run step
      outcome :: outcome.session.runAll rest

end Session

end Splice
