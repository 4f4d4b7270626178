import Splice.Proofs.Render.Galleys
import Splice.Proofs.Session.Isolation

namespace Splice.Session

/-!
# Using a renderer again

A renderer that is kept gives for every document what a new one gives, whatever it rendered
before and wherever an earlier document stopped it; and what it gave before stays as it was
(`used_as_new`).

A step adds a setup when it keeps a renderer, and nothing else touches the setups
(`setups_run`), so the steps tell what a renderer was made with (`setups_after`).
-/

/-- What a renderer is made with. -/
inductive Setup where
  | plain (spacing : Spacing)
  | debug (spacing : Spacing) (tracing : Tracing) (registry : RegistryId)

/-- The step that renders a draft with a new renderer. -/
def Setup.once (draft : Draft) : Setup → Step
  | .plain spacing => .plain draft spacing
  | .debug spacing tracing registry => .segments draft spacing tracing registry

/-- The setup of the renderer that a step keeps. -/
def Step.kept? : Step → Option Setup
  | .keepPlain spacing => some (.plain spacing)
  | .keepDebug spacing tracing registry => some (.debug spacing tracing registry)
  | _ => none

/-- The setup of a renderer. -/
def Renderer.setup : Renderer → Setup
  | .plain renderer => .plain renderer.spacing
  | .debug renderer registry => .debug renderer.spacing renderer.tracing registry

/-- The setups of the renderers that are kept. -/
def setups (session : Session) : List Setup :=
  session.renderers.toList.map Renderer.setup

/-- An outcome with other renderers behind it. -/
def Outcome.keeping (outcome : Outcome) (renderers : Array Renderer) : Outcome :=
  { outcome with session := { outcome.session with renderers := renderers } }

variable {session : Session}

/-- A renderer in a later state has the setup that it had. -/
theorem setups_setRenderer
    {id : RendererId}
    {old new : Renderer}
    (kept : session.renderers[id.number]? = some old)
    (same : new.setup = old.setup) :
    (session.setRenderer id new).setups = session.setups := by
  rcases Array.getElem?_eq_some_iff.mp kept with ⟨inside, rfl⟩
  have within : id.number < session.setups.length := by
    simpa only [setups, List.length_map, Array.length_toList] using inside
  have before : session.setups[id.number] = session.renderers[id.number].setup := by
    simp only [setups, List.getElem_map, Array.getElem_toList]
  have after : (session.setRenderer id new).setups = session.setups.set id.number new.setup := by
    simp only [setups, setRenderer, Array.toList_setIfInBounds, List.map_set]
  rw [after, same, ← before, List.set_getElem_self]

theorem use_as_new
    {id : RendererId}
    {renderer : Renderer}
    (kept : session.renderers[id.number]? = some renderer)
    (draft : Draft) :
    ∃ later : Renderer,
      later.setup = renderer.setup ∧
      session.run (.use id draft) =
        (session.run (renderer.setup.once draft)).keeping
          (session.setRenderer id later).renderers := by
  cases renderer with
  | plain renderer =>
      refine ⟨.plain (renderer.render (session.drafts.read draft)).2, ?_, ?_⟩
      · simp only [Renderer.setup, Render.PlainRenderer.spacing_render]
      · simp only [run, use, kept, Renderer.setup, Setup.once, plain]
        rw [Render.PlainRenderer.render_eq_plain]
        split <;> rfl
  | debug renderer registry =>
      refine ⟨.debug (renderer.render (session.registries.get registry) session.shelf
        (session.drafts.read draft)).2 registry, ?_, ?_⟩
      · simp only [Renderer.setup, Render.DebugRenderer.settings_render]
      · simp only [run, use, kept, Renderer.setup, Setup.once, debug, finishDebug]
        rw [Render.DebugRenderer.render_eq_debug]
        split <;> rfl

theorem setups_compile
    (template : Text)
    (site : Option Token)
    (arguments : Option (List (Text × Value Draft))) :
    (session.compile template site arguments).session.setups = session.setups := by
  rcases session.session_compile template site arguments with ⟨drafts, left⟩
  rw [left]
  rfl

theorem setups_use
    (id : RendererId)
    (draft : Draft) :
    (session.run (.use id draft)).session.setups = session.setups := by
  cases kept : session.renderers[id.number]? with
  | none =>
      simp only [run, use, kept]
      rfl
  | some renderer =>
      rcases use_as_new kept draft with ⟨later, same, used⟩
      rw [used]
      exact setups_setRenderer kept same

theorem setups_keep (renderer : Renderer) :
    (session.keep renderer).session.setups = session.setups ++ [renderer.setup] := by
  simp only [keep, answered, setups, Array.toList_push, List.map_append, List.map_cons,
    List.map_nil]

/-- A step adds the setup of the renderer that it keeps. -/
theorem setups_run
    (session : Session)
    (step : Step) :
    (session.run step).session.setups = session.setups ++ step.kept?.toList := by
  have unchanged {later : List Setup} (same : later = session.setups) :
      later = session.setups ++ [] := by
    rw [same, List.append_nil]
  cases step with
  | keepPlain spacing => exact setups_keep _
  | keepDebug spacing tracing registry => exact setups_keep _
  | use id draft => exact unchanged (setups_use id draft)
  | compile template site arguments => exact unchanged (setups_compile template site arguments)
  | compileIn frame template arguments =>
      exact unchanged (setups_compile template _ _)
  | plain draft spacing | describe draft =>
      exact unchanged (congrArg setups (session_plain session draft _ _))
  | segments draft spacing tracing registry | terminal draft spacing tracing registry
  | styled draft spacing tracing registry =>
      simp only [run, debug, session_finishDebug]
      exact unchanged rfl
  | convert value | ofValues values | join left right | extend receiver value =>
      simp only [run]
      split <;> exact unchanged rfl
  | _ => exact unchanged rfl

theorem setups_after
    (session : Session)
    (steps : List Step) :
    (session.after steps).setups = session.setups ++ steps.filterMap Step.kept? := by
  induction steps generalizing session with
  | nil => exact (List.append_nil _).symm
  | cons step rest inductionHypothesis =>
      rw [after, inductionHypothesis, setups_run, List.append_assoc]
      cases kept : step.kept? <;> simp [kept]

/--
After any steps, using a renderer that was kept comes to the same as rendering with a new one
of its setup at that moment, except for what the renderer keeps for itself.  Whatever was left
on its desk at the beginning, and wherever its documents stop it, a plain renderer gives for
each document what a new one gives.  So does a debug renderer, whose segments lie in galleys:
each galley holds at the end what a new renderer gives for the document of that use, with the
registry and the shelf of that moment, and the galleys from before hold what they held.
-/
theorem used_as_new
    (steps : List Step)
    (id : RendererId)
    (draft : Draft)
    (plainRenderer : Render.PlainRenderer)
    (documents : List Document)
    (renderer : Render.DebugPress)
    (galleys : Render.Galleys Ink)
    (calls : List Render.DebugCall) :
    (match (steps.filterMap Step.kept?)[id.number]? with
      | none =>
          (Session.after {} steps).run (.use id draft) =
            (Session.after {} steps).refused (.noRenderer id)
      | some setup =>
          ∃ renderers,
            (Session.after {} steps).run (.use id draft) =
              ((Session.after {} steps).run (setup.once draft)).keeping renderers) ∧
    plainRenderer.renderEach documents = documents.map (Render.plain plainRenderer.spacing) ∧
    (renderer.renderEach galleys calls).1.map
        (Render.Printed.read (renderer.renderEach galleys calls).2) =
      calls.map (fun call =>
        Render.debug renderer.spacing renderer.tracing call.registry call.shelf call.document) ∧
    galleys.Grows (renderer.renderEach galleys calls).2 := by
  refine ⟨?_, plainRenderer.renderEach_eq_map documents, renderer.read_renderEach galleys calls⟩
  have setups : (Session.after {} steps).setups = steps.filterMap Step.kept? :=
    setups_after {} steps
  have found : (steps.filterMap Step.kept?)[id.number]? =
      (Session.after {} steps).renderers[id.number]?.map Renderer.setup := by
    rw [← setups, Session.setups, List.getElem?_map, Array.getElem?_toList]
  rw [found]
  cases kept : (Session.after {} steps).renderers[id.number]? with
  | none => simp only [Option.map_none, run, use, kept]
  | some renderer =>
      rcases use_as_new kept draft with ⟨later, _, used⟩
      exact ⟨_, used⟩

end Splice.Session
