import Splice.Proofs.Session.Isolation
import Splice.Proofs.Session.SoundShelves

namespace Splice

/-!
# Colours in the order of first use

A token is used when its colour or its style is asked for, and when a debug rendering meets
it, also one that fails later on.  Every registry has slots for the tokens that were used in it,
committed in the order of first use with the numbers of its counter, and nothing else that a
program does changes slots and counter (`inOrder_run`).

`changes_run` says once what a step can do to the registries, and `colours_run` what that does
to their lists; the lists that a run leaves and the looks of a document that is rendered twice
follow from it.
-/

namespace Registries

/-- Whether a registry was opened. -/
def opened (registries : Registries) (id : RegistryId) : Prop :=
  id.number < registries.all.size

instance (registries : Registries) (id : RegistryId) : Decidable (registries.opened id) :=
  inferInstanceAs (Decidable (_ < _))

/-- The slots of every registry are in order. -/
def InOrder (registries : Registries) : Prop :=
  ∀ id, (registries.get id).InOrder

variable {registries : Registries} {id other : RegistryId}

theorem inOrder_start : InOrder {} := by
  intro id
  cases id with
  | mk number => cases number <;> exact .of_empty []

/-- A registry that is opened lists nothing, as before. -/
theorem get_create
    (registries : Registries)
    (id : RegistryId) :
    registries.create.2.get id = registries.get id := by
  by_cases new : id.number = registries.all.size
  · simp [create, get, new]
  · simp [create, get, Array.getElem?_push, new]

/-- A registry that is not open cannot be changed. -/
theorem set_of_not_opened
    (closed : ¬ registries.opened id)
    (registry : Registry) :
    registries.set id registry = registries := by
  simp [set, Array.setIfInBounds, show ¬ id.number < registries.all.size from closed]

/-- Registering a site leaves the slots and the counter of every registry alone. -/
theorem get_registerSite
    (registries : Registries)
    (id : RegistryId)
    (site : Site)
    (file : Text)
    (line column : Int)
    (other : RegistryId) :
    ∃ sites,
      (registries.registerSite id site file line column).2.get other =
        { registries.get other with sites := sites } := by
  unfold registerSite
  split
  · exact ⟨_, rfl⟩
  · next unknown =>
      by_cases same : other = id
      · subst same
        by_cases isOpen : registries.opened other
        · exact ⟨_, get_set_self isOpen _⟩
        · have stillClosed : ¬ (registries.register file line column).2.opened other := isOpen
          refine ⟨(registries.get other).sites, ?_⟩
          change ((registries.register file line column).2.set other _).get other = _
          rw [set_of_not_opened stillClosed]
          rfl
      · exact ⟨_, get_set_of_ne same _⟩

/-- Using tokens in one registry lists them there, if it was opened. -/
theorem coloured_get_set
    (inOrder : registries.InOrder)
    (id : RegistryId)
    (tokens : List Token)
    (other : RegistryId) :
    ((registries.set id ((registries.get id).colourAll tokens)).get other).coloured =
      ((registries.get other).coloured ++
        if id = other ∧ registries.opened other then tokens.map Token.id else []).eraseDups := by
  by_cases same : id = other
  · subst same
    by_cases isOpen : registries.opened id
    · rw [get_set_self isOpen, (inOrder id).coloured_colourAll, if_pos ⟨rfl, isOpen⟩]
    · rw [set_of_not_opened isOpen, if_neg (by simp [isOpen]), List.append_nil,
        eraseDups_eq_self (inOrder id).distinct]
  · rw [get_set_of_ne (Ne.symm same), if_neg (by simp [same]), List.append_nil,
      eraseDups_eq_self (inOrder other).distinct]

/-- Using tokens in one registry keeps the slots of all of them in order. -/
theorem inOrder_set
    (inOrder : registries.InOrder)
    (id : RegistryId)
    (tokens : List Token) :
    (registries.set id ((registries.get id).colourAll tokens)).InOrder := by
  intro other
  by_cases same : other = id
  · subst same
    by_cases isOpen : registries.opened other
    · rw [get_set_self isOpen]
      exact (inOrder other).colourAll tokens
    · rw [set_of_not_opened isOpen]
      exact inOrder other
  · rw [get_set_of_ne same]
    exact inOrder other

end Registries

namespace Session

/-- A debug rendering with all that it is about. -/
structure Drawing where
  registry : RegistryId
  spacing : Spacing
  tracing : Tracing
  document : Document

/-- The debug rendering that a step asks for. -/
def drawing? (session : Session) : Step → Option Drawing
  | .segments draft spacing tracing registry
  | .terminal draft spacing tracing registry
  | .styled draft spacing tracing registry =>
      some ⟨registry, spacing, tracing, session.drafts.read draft⟩
  | .use renderer draft =>
      match session.renderers[renderer.number]? with
      | some (.debug renderer registry) =>
          some ⟨registry, renderer.spacing, renderer.tracing, session.drafts.read draft⟩
      | _ => none
  | _ => none

/-- What a drawing gives at some moment of a session. -/
def drawn (session : Session) (drawing : Drawing) : Render.DebugResult :=
  Render.debug drawing.spacing drawing.tracing (session.registries.get drawing.registry)
    session.shelf drawing.document

/-- The tokens that a step uses, with the registry that it uses them in. -/
def used? (session : Session) : Step → Option (RegistryId × List Token)
  | .colour registry token | .style registry token => some (registry, [token])
  | step => (session.drawing? step).map fun drawing => (drawing.registry, drawing.document.met)

/-- The places of the tokens that a step uses in one registry. -/
def usedIn (session : Session) (id : RegistryId) (step : Step) : List Int :=
  match session.used? step with
  | some (registry, tokens) =>
      if registry = id ∧ session.registries.opened id then tokens.map Token.id else []
  | none => []

/-- The places of the tokens that several steps use in one registry, one use after another. -/
def usedAll (session : Session) (id : RegistryId) : List Step → List Int
  | [] => []
  | step :: rest => session.usedIn id step ++ (session.run step).session.usedAll id rest

/-- A place that a token is wanted for, with the site of a registry that keeps the token, if one does. -/
structure Wanted where
  keeper : Option (RegistryId × Site)
  file : Text
  line : Int
  column : Int

/-- The place that a step wants a token for. -/
def Step.wanted? : Step → Option Wanted
  | .register file line column => some ⟨none, file, line, column⟩
  | .registerSite registry site file line column =>
      some ⟨some (registry, site), file, line, column⟩
  | .compileIn frame _ _ =>
      some ⟨some (.shared, frame.site), frame.running.file, frame.line, frame.column⟩
  | _ => none

/-- The token for a place that one is wanted for, and the registries from then on. -/
def supply (registries : Registries) (wanted : Wanted) : Token × Registries :=
  match wanted.keeper with
  | none => registries.register wanted.file wanted.line wanted.column
  | some (id, site) => registries.registerSite id site wanted.file wanted.line wanted.column

/-- All that a step can do to the registries. -/
inductive Changes (session : Session) (step : Step) : Registries → Prop where
  | nothing
      (quiet : step.wanted? = none)
      (unused : session.used? step = none) :
      Changes session step session.registries
  | opened
      (asked : step = .openRegistry) :
      Changes session step session.registries.create.2
  | supplied
      (wanted : Wanted)
      (wants : step.wanted? = some wanted)
      (unused : session.used? step = none) :
      Changes session step (supply session.registries wanted).2
  | used
      (id : RegistryId)
      (tokens : List Token)
      (quiet : step.wanted? = none)
      (uses : session.used? step = some (id, tokens)) :
      Changes session step
        (session.registries.set id ((session.registries.get id).colourAll tokens))

/-- All that a step can do to the colours, with the tokens that it uses. -/
inductive Colours (registries : Registries) :
    Option (RegistryId × List Token) → Registries → Prop where
  | unused
      {later : Registries}
      (same : ∀ id, ∃ sites, later.get id = { registries.get id with sites := sites }) :
      Colours registries none later
  | used
      (id : RegistryId)
      (tokens : List Token) :
      Colours registries (some (id, tokens))
        (registries.set id ((registries.get id).colourAll tokens))

variable {session : Session}

/-- Compiling leaves the registries alone. -/
theorem registries_compile
    (session : Session)
    (template : Text)
    (site : Option Token)
    (arguments : Option (List (Text × Value Draft))) :
    (session.compile template site arguments).session.registries = session.registries := by
  rcases session.session_compile template site arguments with ⟨drafts, left⟩
  rw [left]

/-- A step that draws changes what the drawing changes. -/
theorem changes_drawn
    (drawing : Drawing)
    {step : Step}
    (quiet : step.wanted? = none)
    (uses : session.used? step = some (drawing.registry, drawing.document.met)) :
    Changes session step
      (session.registries.set drawing.registry (session.drawn drawing).registry) := by
  have registered := Render.registry_debug drawing.spacing drawing.tracing
    (session.registries.get drawing.registry) session.shelf drawing.document
  unfold drawn
  rw [registered]
  exact .used _ _ quiet uses

/-- Using a renderer again changes what its drawing changes. -/
theorem changes_use
    (id : RendererId)
    (draft : Draft) :
    Changes session (.use id draft)
      (session.use id (session.drafts.read draft)).session.registries := by
  cases kept : session.renderers[id.number]? with
  | none =>
      simp only [use, kept]
      exact .nothing rfl (by simp only [used?, drawing?, kept, Option.map_none])
  | some renderer =>
      cases renderer with
      | plain renderer =>
          have unused : session.used? (.use id draft) = none := by
            simp only [used?, drawing?, kept, Option.map_none]
          simp only [use, kept]
          split <;> exact .nothing rfl unused
      | debug renderer registry =>
          simp only [use, kept, session_finishDebug]
          rw [Render.DebugRenderer.render_eq_debug]
          let drawing : Drawing :=
            ⟨registry, renderer.spacing, renderer.tracing, session.drafts.read draft⟩
          have uses :
              session.used? (.use id draft) = some (drawing.registry, drawing.document.met) := by
            simp only [used?, drawing?, kept, Option.map_some, drawing]
          exact changes_drawn drawing rfl uses

/-- Every step changes the registries as its kind allows. -/
theorem changes_run
    (session : Session)
    (step : Step) :
    Changes session step (session.run step).session.registries := by
  cases step with
  | openRegistry => exact .opened rfl
  | register file line column => exact .supplied ⟨none, file, line, column⟩ rfl rfl
  | registerSite registry site file line column =>
      exact .supplied ⟨some (registry, site), file, line, column⟩ rfl rfl
  | colour registry token | style registry token => exact .used registry [token] rfl rfl
  | compile template site arguments =>
      simp only [run, registries_compile]
      exact .nothing rfl rfl
  | compileIn frame template arguments =>
      simp only [run, registries_compile, Registries.callToken_eq]
      exact .supplied ⟨some (.shared, frame.site), frame.running.file, frame.line, frame.column⟩
        rfl rfl
  | convert value | ofValues values | join left right | extend receiver value =>
      simp only [run]
      split <;> exact .nothing rfl rfl
  | plain draft spacing | describe draft =>
      simp only [run, session_plain]
      exact .nothing rfl rfl
  | segments draft spacing tracing registry | terminal draft spacing tracing registry
  | styled draft spacing tracing registry =>
      simp only [run, debug, session_finishDebug]
      exact changes_drawn ⟨registry, spacing, tracing, session.drafts.read draft⟩ rfl rfl
  | use renderer draft => exact changes_use renderer draft
  | _ => exact .nothing rfl rfl

/-- Supplying a token gives no colour. -/
theorem Colours.supply
    (registries : Registries)
    (wanted : Wanted) :
    Colours registries none (Session.supply registries wanted).2 := by
  rcases wanted with ⟨keeper, file, line, column⟩
  cases keeper with
  | none => exact .unused fun _ => ⟨_, rfl⟩
  | some keeper =>
      exact .unused (Registries.get_registerSite registries keeper.1 keeper.2 file line column)

/-- A step gives colours to the tokens that it uses, in the registry that it uses them in. -/
theorem colours_run
    (session : Session)
    (step : Step) :
    Colours session.registries (session.used? step) (session.run step).session.registries := by
  have changes := changes_run session step
  generalize (session.run step).session.registries = later at changes
  cases changes with
  | nothing _ unused =>
      rw [unused]
      exact .unused fun _ => ⟨_, rfl⟩
  | opened asked =>
      rw [asked]
      exact .unused fun id => ⟨_, Registries.get_create _ id⟩
  | supplied wanted _ unused =>
      rw [unused]
      exact .supply _ wanted
  | used id tokens _ uses =>
      rw [uses]
      exact .used _ _

/-- A step adds what it uses to the lists of the registries. -/
theorem coloured_run
    (inOrder : session.registries.InOrder)
    (id : RegistryId)
    (step : Step) :
    ((session.run step).session.registries.get id).coloured =
      ((session.registries.get id).coloured ++ session.usedIn id step).eraseDups := by
  have colours := colours_run session step
  unfold usedIn
  generalize session.used? step = uses at colours
  generalize (session.run step).session.registries = later at colours
  cases colours with
  | unused same =>
      rcases same id with ⟨sites, left⟩
      rw [left, List.append_nil]
      exact (eraseDups_eq_self (inOrder id).distinct).symm
  | used registry tokens => exact Registries.coloured_get_set inOrder registry tokens id

/-- A step keeps the slots of every registry in order. -/
theorem inOrder_run
    (inOrder : session.registries.InOrder)
    (step : Step) :
    (session.run step).session.registries.InOrder := by
  have colours := colours_run session step
  generalize session.used? step = uses at colours
  generalize (session.run step).session.registries = later at colours
  cases colours with
  | unused same =>
      intro id
      rcases same id with ⟨sites, left⟩
      rw [left]
      exact ⟨(inOrder id).distinct, (inOrder id).slots, (inOrder id).counter⟩
  | used registry tokens => exact Registries.inOrder_set inOrder registry tokens

/-- A run keeps the slots of every registry in order. -/
theorem inOrder_after
    (inOrder : session.registries.InOrder)
    (steps : List Step) :
    (session.after steps).registries.InOrder := by
  induction steps generalizing session with
  | nil => exact inOrder
  | cons step rest inductionHypothesis => exact inductionHypothesis (inOrder_run inOrder step)

/-- A run colours what was coloured before and then what it uses, each token once. -/
theorem coloured_after
    (inOrder : session.registries.InOrder)
    (id : RegistryId)
    (steps : List Step) :
    ((session.after steps).registries.get id).coloured =
      ((session.registries.get id).coloured ++ session.usedAll id steps).eraseDups := by
  induction steps generalizing session with
  | nil => simp [after, usedAll, eraseDups_eq_self (inOrder id).distinct]
  | cons step rest inductionHypothesis =>
      rw [after, inductionHypothesis (inOrder_run inOrder step), coloured_run inOrder,
        eraseDups_eraseDups_append, usedAll, List.append_assoc]

/-- Two runs, one after the other, are one run. -/
theorem after_append
    (session : Session)
    (steps more : List Step) :
    session.after (steps ++ more) = (session.after steps).after more := by
  induction steps generalizing session with
  | nil => rfl
  | cons step rest inductionHypothesis => exact inductionHypothesis _

/-- The shelf stays sound over a run. -/
theorem sound_shelf_after
    (sound : session.shelf.Sound)
    (steps : List Step) :
    (session.after steps).shelf.Sound := by
  induction steps generalizing session with
  | nil => exact sound
  | cons step rest inductionHypothesis =>
      exact inductionHypothesis (sound_shelf_run sound step)

/-- A step keeps all slots. -/
theorem slots_run
    (session : Session)
    (step : Step)
    (id : RegistryId) :
    (session.registries.get id).slots <+: ((session.run step).session.registries.get id).slots := by
  have colours := colours_run session step
  generalize session.used? step = uses at colours
  generalize (session.run step).session.registries = later at colours
  cases colours with
  | unused same =>
      rcases same id with ⟨sites, left⟩
      simp only [left, List.prefix_rfl]
  | used registry tokens =>
      by_cases same : id = registry
      · subst same
        by_cases isOpen : session.registries.opened id
        · rw [Registries.get_set_self isOpen]
          exact Registry.slots_colourAll _ tokens
        · simp only [Registries.set_of_not_opened isOpen, List.prefix_rfl]
      · simp only [Registries.get_set_of_ne same, List.prefix_rfl]

/-- A run keeps all slots. -/
theorem slots_after
    (session : Session)
    (steps : List Step)
    (id : RegistryId) :
    (session.registries.get id).slots <+: ((session.after steps).registries.get id).slots := by
  induction steps generalizing session with
  | nil => exact List.prefix_refl _
  | cons step rest inductionHypothesis =>
      exact (slots_run session step id).trans (inductionHypothesis _)

/-- What a step makes of the segments of its drawing. -/
def Step.shown (shelf : Shelf) (drawn : List (Render.Segment Ink)) : Step → Answer
  | .terminal _ _ tracing _ => (asTerminal tracing.system shelf drawn).1
  | .styled _ _ _ _ => (asStyled shelf drawn).1
  | _ => (asSegments shelf drawn).1

/-- A debug step answers with what is made of the segments, or with the fault. -/
theorem answer_finishDebug
    (session : Session)
    (registry : RegistryId)
    (result : Render.DebugResult)
    (answer : Shelf → List (Render.Segment Ink) → Answer × Shelf) :
    (session.finishDebug registry result answer).answer =
      match result.segments with
      | .error fault => .error (.reference fault)
      | .ok segments => .ok (answer result.shelf segments).1 := by
  unfold finishDebug
  dsimp only
  cases result.segments with
  | error fault => rfl
  | ok segments => rfl

/-- The answer of a step that asks for a drawing is made from the segments of the drawing. -/
theorem answer_of_drawing?
    {step : Step}
    {drawing : Drawing}
    (asked : session.drawing? step = some drawing) :
    (session.run step).answer =
      match (session.drawn drawing).segments with
      | .error fault => .error (.reference fault)
      | .ok segments => .ok (step.shown (session.drawn drawing).shelf segments) := by
  cases step with
  | segments draft spacing tracing registry | terminal draft spacing tracing registry
  | styled draft spacing tracing registry =>
      cases asked
      exact answer_finishDebug session registry _ _
  | use id draft =>
      cases kept : session.renderers[id.number]? with
      | none =>
          simp only [drawing?, kept] at asked
          cases asked
      | some renderer =>
          cases renderer with
          | plain renderer =>
              simp only [drawing?, kept] at asked
              cases asked
          | debug renderer registry =>
              simp only [drawing?, kept] at asked
              cases asked
              simp only [run, use, kept, answer_finishDebug]
              rw [Render.DebugRenderer.render_eq_debug]
              rfl
  | _ => cases asked

/-- After a step that asks for a drawing, the registry is what the drawing leaves. -/
theorem get_run_of_drawing?
    {step : Step}
    {drawing : Drawing}
    (asked : session.drawing? step = some drawing)
    (isOpen : session.registries.opened drawing.registry) :
    (session.run step).session.registries.get drawing.registry =
      (session.drawn drawing).registry := by
  have uses : session.used? step = some (drawing.registry, drawing.document.met) := by
    cases step with
    | colour | style => cases asked
    | _ => simp only [used?, asked, Option.map_some]
  have colours := colours_run session step
  rw [uses] at colours
  generalize (session.run step).session.registries = later at colours
  cases colours with
  | used =>
      rw [Registries.get_set_self isOpen]
      exact (Render.registry_debug _ _ _ _ _).symm

/-- Whether a step asks for a colour or a debug rendering. -/
def asksForColours (session : Session) : Step → Prop
  | .colour .. | .style .. | .segments .. | .terminal .. | .styled .. => True
  | .use renderer _ =>
      ∃ kept registry, session.renderers[renderer.number]? = some (.debug kept registry)
  | _ => False

/-- A step that asks for no colours uses no token. -/
theorem used?_of_not_asksForColours
    {step : Step}
    (silent : ¬ session.asksForColours step) :
    session.used? step = none := by
  cases step with
  | colour | style | segments | terminal | styled => exact (silent trivial).elim
  | use id draft =>
      cases kept : session.renderers[id.number]? with
      | none => simp [used?, drawing?, kept]
      | some renderer =>
          cases renderer with
          | plain renderer => simp [used?, drawing?, kept]
          | debug renderer registry => exact (silent ⟨renderer, registry, kept⟩).elim
  | _ => rfl

/-- What the uses of a run make of the colours, at its end and in every run that goes on. -/
structure ColouredInOrder (steps : List Step) : Prop where
  /-- The token of a colour is the one that comes at its place among the first uses. -/
  ordered : ∀ {id token index},
    ((Session.after {} steps).registries.get id).colour? token = some index ↔
      (Session.usedAll {} id steps).eraseDups[index]? = some token.id
  /-- As many colours are in use as there are first uses, and they begin with `0`. -/
  gapless : ∀ {id index},
    (∃ token, ((Session.after {} steps).registries.get id).colour? token = some index) ↔
      index < (Session.usedAll {} id steps).eraseDups.length
  /-- The slots hold these colours for the tokens, in the order in which they were committed. -/
  slots : ∀ {id},
    ((Session.after {} steps).registries.get id).slots =
      (Session.usedAll {} id steps).eraseDups.zipIdx
  /-- No number of the counter is lost: it stands at the number of first uses. -/
  counter : ∀ {id},
    ((Session.after {} steps).registries.get id).nextColour =
      (Session.usedAll {} id steps).eraseDups.length
  known : ∀ {id token},
    ((Session.after {} steps).run (.isColoured id token)).answer =
      .ok (.isColoured (decide (token.id ∈ Session.usedAll {} id steps)))
  /-- Asking for a colour or a style tells the colour that the token has from then on. -/
  told : ∀ {id},
    (Session.after {} steps).registries.opened id →
    ∀ token, ∃ index,
      ((Session.after {} steps).run (.colour id token)).answer = .ok (.colour index) ∧
      ((Session.after {} steps).run (.style id token)).answer =
        .ok (.style (Palette.style index)) ∧
      ∀ step ∈ [.colour id token, .style id token],
        ((Session.after {} (steps ++ [step])).registries.get id).colour? token = some index
  stable : ∀ {id token index},
    ((Session.after {} steps).registries.get id).colour? token = some index →
    ∀ more,
      ((Session.after {} (steps ++ more)).registries.get id).colour? token = some index
  /-- Registering, compiling and plain rendering are among the steps that give no colour. -/
  silent : ∀ {step},
    ¬ (Session.after {} steps).asksForColours step →
    ∀ id,
      ((Session.after {} (steps ++ [step])).registries.get id).slots =
          ((Session.after {} steps).registries.get id).slots ∧
        ((Session.after {} (steps ++ [step])).registries.get id).nextColour =
          ((Session.after {} steps).registries.get id).nextColour
  /-- A step that asks for a drawing is told what the drawing gives. -/
  shown : ∀ {step drawing},
    (Session.after {} steps).drawing? step = some drawing →
    ((Session.after {} steps).run step).answer =
      match ((Session.after {} steps).drawn drawing).segments with
      | .error fault => .error (.reference fault)
      | .ok segments =>
          .ok (step.shown ((Session.after {} steps).drawn drawing).shelf segments)
  /-- A drawing that is asked for again has the same styles, whatever came between. -/
  again : ∀ {first drawing},
    (Session.after {} steps).drawing? first = some drawing →
    (Session.after {} steps).registries.opened drawing.registry →
    ∀ {between second},
      (Session.after {} (steps ++ first :: between)).drawing? second = some drawing →
      ((Session.after {} (steps ++ first :: between)).drawn drawing).segments.map
          (List.map Render.Segment.styled) =
        ((Session.after {} steps).drawn drawing).segments.map (List.map Render.Segment.styled)
  /-- Two colours look the same when they are a whole number of palettes apart. -/
  backgrounds : ∀ {id token index otherId other otherIndex},
    ((Session.after {} steps).registries.get id).colour? token = some index →
    ((Session.after {} steps).registries.get otherId).colour? other = some otherIndex →
    ((Palette.style index).background = (Palette.style otherIndex).background ↔
      index % 229 = otherIndex % 229)

section Run

variable {steps : List Step} {id : RegistryId} {token : Token} {index : Nat}

/-- After a run from the beginning, the colours of every registry are in order. -/
theorem inOrder_of_steps
    (steps : List Step) :
    (Session.after {} steps).registries.InOrder :=
  inOrder_after Registries.inOrder_start steps

/-- A registry has coloured what was used in it, each token once and in the order of first use. -/
theorem coloured_of_steps
    (steps : List Step)
    (id : RegistryId) :
    ((Session.after {} steps).registries.get id).coloured =
      (Session.usedAll {} id steps).eraseDups := by
  have empty : (Registries.get {} id).coloured = [] := by
    cases id with
    | mk number => cases number <;> rfl
  rw [coloured_after Registries.inOrder_start, empty, List.nil_append]

/-- The slots are those of the first uses. -/
theorem slots_of_steps
    (steps : List Step)
    (id : RegistryId) :
    ((Session.after {} steps).registries.get id).slots =
      (Session.usedAll {} id steps).eraseDups.zipIdx := by
  rw [(inOrder_of_steps steps id).slots, coloured_of_steps]

/-- The colour of a token is its place among the first uses. -/
theorem colour?_of_steps :
    ((Session.after {} steps).registries.get id).colour? token = some index ↔
      (Session.usedAll {} id steps).eraseDups[index]? = some token.id := by
  rw [(inOrder_of_steps steps id).colour?_eq_some_iff, coloured_of_steps]

/-- Every colour of a run has its token, and every token that is listed has a colour. -/
theorem exists_colour?_iff :
    (∃ token, ((Session.after {} steps).registries.get id).colour? token = some index) ↔
      index < (Session.usedAll {} id steps).eraseDups.length := by
  constructor
  · rintro ⟨token, given⟩
    exact (List.getElem?_eq_some_iff.mp (colour?_of_steps.mp given)).1
  · intro inside
    have listed := List.getElem?_eq_getElem inside
    exact ⟨⟨_, [], 0, 0⟩, colour?_of_steps.mpr listed⟩

/-- A colour never changes. -/
theorem colour?_of_more
    (given : ((Session.after {} steps).registries.get id).colour? token = some index)
    (more : List Step) :
    ((Session.after {} (steps ++ more)).registries.get id).colour? token = some index := by
  rw [after_append]
  exact Registry.colour?_of_grown (slots_after _ more id) given

/-- Asking for the colour of a token gives it one. -/
theorem colour?_giveColour
    (isOpen : session.registries.opened id)
    (token : Token)
    (answer : Nat → Answer) :
    ((session.giveColour id token answer).session.registries.get id).colour? token =
      some ((session.registries.get id).colourOf token) := by
  unfold giveColour
  dsimp only
  rw [Registries.get_set_self isOpen]
  exact Registry.colour?_colour _ token

end Run

/--
Colours are stable, without gaps, and stand in the order of first use.  In every registry
the colours are the places of the distinct tokens among the uses of a run, where a use is a
request for a colour or a style or a token that a debug rendering meets, be it successful or
not.  Only such steps give colours, and what they gave stays, so a document that did not
change is drawn in the same styles again.
-/
theorem colouredInOrder
    (steps : List Step) :
    ColouredInOrder steps := by
  have inOrder := inOrder_of_steps steps
  constructor
  case ordered => exact colour?_of_steps
  case gapless => exact exists_colour?_iff
  case slots => exact slots_of_steps steps _
  case counter =>
    intro id
    rw [(inOrder id).counter, coloured_of_steps]
  case known =>
    intro id token
    have listed : ((Session.after {} steps).registries.get id).isColoured token =
        decide (token.id ∈ Session.usedAll {} id steps) := by
      rw [Bool.eq_iff_iff, Registry.isColoured_iff, coloured_of_steps, List.mem_eraseDups,
        decide_eq_true_iff]
    simp only [run, answered, listed]
  case told =>
    intro id isOpen token
    refine ⟨_, rfl, rfl, ?_⟩
    intro step asked
    rw [after_append]
    simp only [List.mem_cons, List.not_mem_nil, or_false] at asked
    rcases asked with rfl | rfl
    · exact colour?_giveColour isOpen token _
    · exact colour?_giveColour isOpen token _
  case stable => exact colour?_of_more
  case silent =>
    intro step silent id
    have colours := colours_run (Session.after {} steps) step
    rw [used?_of_not_asksForColours silent] at colours
    rw [after_append, after, after]
    generalize ((Session.after {} steps).run step).session.registries = later at colours
    cases colours with
    | unused same =>
        rcases same id with ⟨sites, left⟩
        rw [left]
        exact ⟨rfl, rfl⟩
  case shown => exact answer_of_drawing?
  case again =>
    intro first drawing asked isOpen between second _
    have grown := slots_after ((Session.after {} steps).run first).session between
      drawing.registry
    rw [get_run_of_drawing? asked isOpen] at grown
    have sound : (Session.after {} steps).shelf.Sound := sound_shelf_after .of_empty steps
    have laterSound := sound_shelf_after (sound_shelf_run sound first) between
    rw [after_append, after]
    exact (Render.map_styled_debug_of_grown drawing.spacing drawing.tracing sound laterSound
      grown).symm
  case backgrounds =>
    intro id token index otherId other otherIndex _ _
    exact Palette.background_style_eq_iff index otherIndex

/-- A document that breaks off between its places. -/
def torn : Document :=
  [.marker argumentSite, .fixed "x".toList, .back 7, .marker callSite]

/-- One registry colours the argument first, as `torn` fails, and another one the call. -/
def tornSteps : List Step :=
  [.begin torn, .begin Render.tracedCall, .openRegistry, .colour ⟨1⟩ callSite,
    .segments ⟨0⟩ .standard .standard .shared]

def tracing : Step :=
  .segments ⟨1⟩ .standard .standard .shared

def tracedDrawing : Drawing :=
  ⟨.shared, .standard, .standard, Render.tracedCall⟩

/-- The drawing of the example stays what it is as long as nothing is appended to its document. -/
theorem drawing?_tracing
    (more : List Step)
    (still : (Session.after {} (tornSteps.take 2)).appendedAll ⟨1⟩ more = []) :
    (Session.after {} (tornSteps.take 2 ++ more)).drawing? tracing = some tracedDrawing := by
  have held : (Session.after {} (tornSteps.take 2)).drafts.holds ⟨1⟩ := by
    change 1 < (Session.after {} (tornSteps.take 2)).drafts.documents.size
    decide +kernel
  rw [after_append, tracing, drawing?, read_after held, still, List.append_nil]
  rfl

/-- The colours that the two registries give, and two looks at `tracedDrawing`. -/
theorem colouredInOrder_tornSteps :
    Session.usedAll {} .shared (tornSteps ++ [tracing]) = [2, 1, 2, 2, 2] ∧
    ((Session.after {} (tornSteps ++ [tracing])).registries.get .shared).colour? argumentSite =
      some 0 ∧
    ((Session.after {} (tornSteps ++ [tracing])).registries.get .shared).colour? callSite =
      some 1 ∧
    ((Session.after {} (tornSteps ++ [tracing])).registries.get ⟨1⟩).colour? callSite = some 0 ∧
    ((Session.after {} (tornSteps ++ [tracing])).drawn tracedDrawing).segments.map
        (List.map Render.Segment.styled) =
      ((Session.after {} tornSteps).drawn tracedDrawing).segments.map
        (List.map Render.Segment.styled) := by
  have uses : Session.usedAll {} .shared (tornSteps ++ [tracing]) = [2, 1, 2, 2, 2] := by
    decide +kernel
  have otherUses : Session.usedAll {} ⟨1⟩ (tornSteps ++ [tracing]) = [1] := by
    decide +kernel
  refine ⟨uses, ?_, ?_, ?_, ?_⟩
  · apply (colouredInOrder _).ordered.mpr
    rw [uses]
    rfl
  · apply (colouredInOrder _).ordered.mpr
    rw [uses]
    rfl
  · apply (colouredInOrder _).ordered.mpr
    rw [otherUses]
    rfl
  · have isOpen : (Session.after {} tornSteps).registries.opened .shared := by decide +kernel
    have asked := drawing?_tracing (tornSteps.drop 2) rfl
    have askedAgain := drawing?_tracing (tornSteps.drop 2 ++ [tracing]) rfl
    exact (colouredInOrder tornSteps).again asked isOpen askedAgain

end Session

end Splice
