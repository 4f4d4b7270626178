import Splice.Proofs.Render.DebugText
import Splice.Proofs.Template.SoundDocuments
import Splice.Session.Run

namespace Splice

/-!
# Whatever is built renders

Drafts begin empty, from texts, from values or from templates, and grow by what
other drafts hold, themselves included.  None of this ever leaves a reference
without its block, at any level, so no rendering of a draft is refused because of
one.  The invariant is `Drafts.Sound`; `Session.sound_run` says that a step keeps it.
-/

/-- Every draft holds a sound document. -/
def Drafts.Sound (drafts : Drafts) : Prop :=
  ∀ draft, (drafts.read draft).Sound

namespace Drafts.Sound

variable {drafts : Drafts}

theorem of_fresh : Drafts.Sound {} := by
  intro draft
  exact .empty

theorem begin
    (sound : drafts.Sound)
    {document : Document}
    (documentSound : document.Sound) :
    (drafts.begin document).2.Sound := by
  intro draft
  have known := sound draft
  unfold read at known
  simp only [Drafts.begin, read, Array.getElem?_push]
  split
  · exact documentSound
  · exact known

theorem append
    (sound : drafts.Sound)
    {more : Document}
    (moreSound : more.Sound)
    (receiver : Draft) :
    (drafts.append receiver more).Sound := by
  intro draft
  have known := sound draft
  unfold read at known
  simp only [Drafts.append, read, Array.getElem?_modify]
  split
  · cases held : drafts.documents[draft.number]? with
    | none => exact .empty
    | some document =>
        rw [held] at known
        exact Document.Sound.append known moreSound
  · exact known

/-- The document of a value is sound: it is new, or a draft holds it. -/
theorem toDocument
    (sound : drafts.Sound)
    {value : Value Draft}
    {document : Document}
    (converted : (drafts.settle value).toDocument = .ok document) :
    document.Sound := by
  unfold Value.toDocument settle at converted
  rw [Value.convert_map] at converted
  cases made : value.convert with
  | error typeName =>
      rw [made] at converted
      cases converted
  | ok found =>
      rw [made] at converted
      cases found with
      | inl draft =>
          cases converted
          exact sound draft
      | inr new =>
          cases converted
          exact Value.sound_of_convert made

theorem convert
    (sound : drafts.Sound)
    {value : Value Draft}
    {draft : Draft}
    {later : Drafts}
    (converted : drafts.convert value = .ok (draft, later)) :
    later.Sound := by
  unfold Drafts.convert at converted
  cases made : value.convert with
  | error typeName =>
      rw [made] at converted
      cases converted
  | ok found =>
      rw [made] at converted
      cases found with
      | inl old =>
          cases converted
          exact sound
      | inr new =>
          cases converted
          exact sound.begin (Value.sound_of_convert made)

theorem ofValues
    (sound : drafts.Sound)
    {values : List (Value Draft)}
    {document : Document}
    (converted : Document.ofValues (values.map drafts.settle) = .ok document) :
    document.Sound := by
  induction values generalizing document with
  | nil =>
      cases converted
      exact .empty
  | cons value rest inductionHypothesis =>
      obtain ⟨first, firstConverted, afterFirst⟩ := bind_eq_ok converted
      obtain ⟨others, restConverted, same⟩ := bind_eq_ok afterFirst
      cases same
      exact (sound.toDocument firstConverted).append (inductionHypothesis restConverted)

/-- A template with drafts among its arguments gives a sound document. -/
theorem compile
    (sound : drafts.Sound)
    {template : Text}
    {site : Option Token}
    {arguments : Option (List (Text × Value Draft))}
    {compilation : Template.Compilation}
    (compiled :
      Template.compile template site
          (arguments.map fun pairs => pairs.map fun pair => (pair.1, drafts.settle pair.2)) =
        .ok compilation) :
    compilation.document.Sound := by
  refine Template.sound_of_compile compiled ?_
  intro pairs name value document isGiven member converted
  obtain ⟨given, _, rfl⟩ := Option.map_eq_some_iff.mp isGiven
  obtain ⟨pair, _, same⟩ := List.mem_map.mp member
  cases same
  exact sound.toDocument converted

end Drafts.Sound

namespace Session

/-- A step that begins a draft with operations of its own begins an empty one. -/
def Step.BeginsEmpty : Step → Prop
  | .begin document => document = []
  | _ => True

/-- What a step leads to when nothing goes wrong with references. -/
structure Outcome.Sound (outcome : Outcome) : Prop where
  drafts : outcome.session.drafts.Sound
  answer : ∀ fault, outcome.answer ≠ .error (.reference fault)

namespace Outcome.Sound

variable {session : Session}

theorem of_same
    (sound : session.drafts.Sound)
    {outcome : Outcome}
    (same : outcome.session.drafts = session.drafts)
    (answer : ∀ fault, outcome.answer ≠ .error (.reference fault)) :
    outcome.Sound where
  drafts := by
    rw [same]
    exact sound
  answer := answer

theorem answeredDraft
    (sound : session.drafts.Sound)
    {document : Document}
    (documentSound : document.Sound)
    (notes : List Note) :
    (session.answeredDraft document notes).Sound where
  drafts := sound.begin documentSound
  answer := by simp [Session.answeredDraft]

theorem grown
    (sound : session.drafts.Sound)
    {more : Document}
    (moreSound : more.Sound)
    (receiver : Draft) :
    (session.grown receiver more).Sound where
  drafts := sound.append moreSound receiver
  answer := by simp [Session.grown, Session.answered]

theorem compile
    (sound : session.drafts.Sound)
    (template : Text)
    (site : Option Token)
    (arguments : Option (List (Text × Value Draft))) :
    (session.compile template site arguments).Sound := by
  unfold Session.compile
  simp only
  split
  · exact .of_same sound rfl (by simp [Session.refused])
  · next compilation compiled =>
      exact answeredDraft sound (sound.compile compiled) _

theorem plain
    (sound : session.drafts.Sound)
    (draft : Draft)
    (spacing : Spacing)
    (say : Text → Text) :
    (session.plain draft spacing say).Sound := by
  obtain ⟨text, rendered⟩ :=
    Render.PlainRenderer.render_of_resolves { spacing := spacing } (sound draft).resolves
  have given : Render.plain spacing (session.drafts.read draft) = .ok text := rendered
  unfold Session.plain
  rw [given]
  exact .of_same sound rfl (by simp [Session.answered])

/-- Segments that a debug rendering gave are answered, whatever becomes of them. -/
theorem finishDebug
    (sound : session.drafts.Sound)
    {registry : RegistryId}
    {result : Render.DebugResult}
    (given : ∃ segments, result.segments = .ok segments)
    (answer : Shelf → List (Render.Segment Ink) → Answer × Shelf) :
    (session.finishDebug registry result answer).Sound := by
  obtain ⟨segments, rendered⟩ := given
  unfold Session.finishDebug
  simp only [rendered]
  exact .of_same sound rfl (by simp)

theorem debug
    (sound : session.drafts.Sound)
    (draft : Draft)
    (spacing : Spacing)
    (tracing : Tracing)
    (registry : RegistryId)
    (answer : Shelf → List (Render.Segment Ink) → Answer × Shelf) :
    (session.debug draft spacing tracing registry answer).Sound :=
  finishDebug sound
    (Render.DebugRenderer.render_of_resolves { spacing := spacing, tracing := tracing } _ _
      (sound draft).resolves)
    answer

theorem use
    (sound : session.drafts.Sound)
    (id : RendererId)
    (draft : Draft) :
    (session.use id (session.drafts.read draft)).Sound := by
  unfold Session.use
  split
  · exact .of_same sound rfl (by simp [Session.refused])
  · next renderer _ =>
      obtain ⟨text, rendered⟩ := renderer.render_of_resolves (sound draft).resolves
      simp only [rendered]
      exact .of_same sound rfl (by simp [Session.answered])
  · next renderer registry _ =>
      have given := renderer.render_of_resolves (session.registries.get registry) session.shelf
        (sound draft).resolves
      refine finishDebug ?_ given asSegments
      exact sound

end Outcome.Sound

/-- A step that begins no draft with operations of its own keeps all drafts sound. -/
theorem sound_run
    {session : Session}
    (sound : session.drafts.Sound)
    {step : Step}
    (beginsEmpty : step.BeginsEmpty) :
    (session.run step).Sound := by
  cases step with
  | begin document =>
      have empty : document = [] := beginsEmpty
      subst empty
      exact .answeredDraft sound .empty []
  | compile template site arguments => exact .compile sound template site arguments
  | compileIn frame template arguments =>
      let named := session.registries.callToken .shared frame
      have sameDrafts : ({ session with registries := named.2 } : Session).drafts.Sound :=
        sound
      exact Outcome.Sound.compile sameDrafts template (some named.1) (some arguments)
  | convert value =>
      simp only [run]
      split
      · exact .of_same sound rfl (by simp [unconvertible, refused])
      · next draft drafts converted => exact ⟨sound.convert converted, by simp [answered]⟩
  | ofText text => exact .answeredDraft sound (Document.sound_ofText text) []
  | ofValues values =>
      simp only [run]
      split
      · exact .of_same sound rfl (by simp [unconvertible, refused])
      · next document converted => exact .answeredDraft sound (sound.ofValues converted) []
  | join left right =>
      simp only [run]
      split
      · exact .of_same sound rfl (by simp [unconvertible, refused])
      · next document converted =>
          exact .answeredDraft sound ((sound left).append (sound.toDocument converted)) []
  -- What the other draft holds is read before the receiver grows, even when they are
  -- the same.
  | append receiver other => exact .grown sound (sound other) receiver
  | extend receiver value =>
      simp only [run]
      split
      · exact .of_same sound rfl (by simp [unconvertible, refused])
      · next document converted => exact .grown sound (sound.toDocument converted) receiver
  | plain draft spacing => exact .plain sound draft spacing id
  | describe draft => exact .plain sound draft .standard description
  | segments draft spacing tracing registry | terminal draft spacing tracing registry
  | styled draft spacing tracing registry =>
      exact .debug sound draft spacing tracing registry _
  | use renderer draft => exact .use sound renderer draft
  | _ => exact .of_same sound rfl (by simp [run, answered, giveColour, keep])

/-- Steps that begin no draft with operations of their own keep all drafts sound. -/
theorem sound_runAll
    {session : Session}
    (sound : session.drafts.Sound)
    {steps : List Step}
    (beginEmpty : ∀ step ∈ steps, step.BeginsEmpty)
    {outcome : Outcome}
    (reached : outcome ∈ session.runAll steps) :
    outcome.Sound := by
  induction steps generalizing session with
  | nil => cases reached
  | cons step rest inductionHypothesis =>
      have first := sound_run sound (beginEmpty step (by simp))
      rcases List.mem_cons.mp reached with rfl | later
      · exact first
      · exact inductionHypothesis first.drafts
          (fun step member => beginEmpty step (by simp [member])) later

/--
Every draft of a program that begins its drafts empty renders, whatever it was built
from and however often it grew: at every level its references stand for blocks and
its texts hold no line feed, plain and debug rendering both come to their end, and no
step on the way is refused because of a reference.
-/
theorem renders_of_runAll
    {steps : List Step}
    (beginEmpty : ∀ step ∈ steps, step.BeginsEmpty)
    {outcome : Outcome}
    (reached : outcome ∈ Session.runAll {} steps) :
    (∀ fault, outcome.answer ≠ .error (.reference fault)) ∧
    ∀ draft,
      (outcome.session.drafts.read draft).Sound ∧
      (∀ spacing, ∃ text,
        Render.plain spacing (outcome.session.drafts.read draft) = .ok text) ∧
      ∀ spacing tracing registry shelf, ∃ segments,
        (Render.debug spacing tracing registry shelf
          (outcome.session.drafts.read draft)).segments = .ok segments := by
  have sound := sound_runAll .of_fresh beginEmpty reached
  refine ⟨sound.answer, ?_⟩
  intro draft
  have draftSound := sound.drafts draft
  refine ⟨draftSound, ?_, ?_⟩
  · intro spacing
    exact Render.PlainRenderer.render_of_resolves { spacing := spacing } draftSound.resolves
  · intro spacing tracing registry shelf
    exact Render.DebugRenderer.render_of_resolves { spacing := spacing, tracing := tracing }
      registry shelf draftSound.resolves

/-- A draft that is an argument twice, in a draft that then grows by itself. -/
def growingTwice : List Step :=
  [.ofText "a\nb".toList,
    .compile "$x = $x\n".toList (some ⟨1, "demo.py".toList, 2, 1⟩)
      (some [("x".toList, .document ⟨0⟩)]),
    .append ⟨1⟩ ⟨1⟩]

/-- The draft of `growingTwice` renders after it grew. -/
theorem renders_growingTwice :
    (∀ step ∈ growingTwice, step.BeginsEmpty) ∧
    ∃ outcome ∈ Session.runAll {} growingTwice,
      Render.plain .standard (outcome.session.drafts.read ⟨1⟩) =
        .ok "a\nb = a\n    b\na\nb = a\n    b\n".toList ∧
      (outcome.session.drafts.read ⟨1⟩).Sound ∧
      ∀ spacing tracing registry shelf, ∃ segments,
        (Render.debug spacing tracing registry shelf
          (outcome.session.drafts.read ⟨1⟩)).segments = .ok segments := by
  have beginEmpty : ∀ step ∈ growingTwice, step.BeginsEmpty := by
    simp [growingTwice, Step.BeginsEmpty]
  have reached :
      (Session.runAll {} growingTwice).getLast (by simp [growingTwice, runAll]) ∈
        Session.runAll {} growingTwice :=
    List.getLast_mem _
  obtain ⟨sound, _, traced⟩ := (renders_of_runAll beginEmpty reached).2 ⟨1⟩
  exact ⟨beginEmpty, _, reached, by decide +kernel, sound, traced⟩

end Session

end Splice
