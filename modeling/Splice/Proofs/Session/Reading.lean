import Splice.Proofs.Render.Showing
import Splice.Proofs.Session.Writing

namespace Splice.Session

/-!
# What is read of a text for a terminal

A screen that reads what a session writes shows the segments of the drawing, each character
with the codes of its own segment, and a new screen can take over at any line.
-/

open Style (Cell Screen)
open Render (cells segmentsText)

/--
A screen shows of a drawing whose emphasis is no link what its segments spell, each character
with the codes of the style of its segment, or with none where the segment has no style or one
without codes; and no style is in force where a line begins or ends.
-/
theorem shown_terminal
    {steps : List Step}
    {draft : Draft}
    {document : Document}
    (holds : (Session.after {} steps).drafts.read draft = document)
    {rules : Spacing}
    {text : Text}
    (renders : Render.plain rules document = .ok text)
    {tracing : Tracing}
    (noLink : tracing.boundary.link = none)
    (plainTexts : ∀ t ∈ document.texts, t.Plain)
    (plainTitle : tracing.legendTitle.Plain)
    (plainLocations : ∀ token ∈ document.held, token.location.Plain)
    (spacing : Spacing)
    (registry : RegistryId) :
    ∃ segments written,
      ((Session.after {} steps).run (.segments draft spacing tracing registry)).answer =
        .ok (.segments segments) ∧
      ((Session.after {} steps).run (.terminal draft spacing tracing registry)).answer =
        .ok (.text written) ∧
      (Screen.atRest []).read? written = some (.atRest (cells tracing.system segments)) ∧
      (cells tracing.system segments).map Cell.char = segmentsText segments ∧
      (∀ cell ∈ cells tracing.system segments, cell.char = '\n' → cell.inForce = []) ∧
      ∀ line ∈ Text.lines written, ∃ shown,
        (Screen.atRest []).read? line = some (.atRest shown) := by
  subst holds
  have resolves := Render.resolves_of_plain renders
  have sound : (Session.after {} steps).shelf.Sound := sound_shelf_after .of_empty steps
  let drawing : Drawing :=
    ⟨registry, spacing, tracing, (Session.after {} steps).drafts.read draft⟩
  have drawable : ∃ segments, ((Session.after {} steps).drawn drawing).segments = .ok segments :=
    Render.debug_of_resolves spacing tracing _ _ resolves
  rcases drawable with ⟨segments, drew⟩
  have clean : ∀ segment ∈ segments, segment.Clean := fun segment member =>
    Render.clean_of_mem_debug sound drew plainTexts plainTitle plainLocations member
  have noEscape : Style.escape ∉ segmentsText segments := by
    intro inText
    rcases List.mem_flatMap.mp inText with ⟨segment, among, inSegment⟩
    exact (clean segment among).noEscape inSegment
  have reads : (Screen.atRest []).read? (Render.painted tracing.system segments) =
      some (.atRest (cells tracing.system segments)) :=
    Render.read?_painted noEscape
  have feeds : ∀ cell ∈ cells tracing.system segments, cell.char = '\n' → cell.inForce = [] :=
    fun cell member => Render.inForce_of_feed clean member
  refine ⟨segments, Render.painted tracing.system segments, ?_, ?_, reads,
    Render.map_char_cells tracing.system segments, feeds, ?_⟩
  · have asked :
        (Session.after {} steps).drawing? (.segments draft spacing tracing registry) =
          some drawing := rfl
    rw [answer_of_drawing? asked, drew]
    rfl
  · have asked :
        (Session.after {} steps).drawing? (.terminal draft spacing tracing registry) =
          some drawing := rfl
    rw [answer_terminal asked noLink, drew]
  · rw [← Text.joinLines_lines (Render.painted tracing.system segments)] at reads
    exact Screen.read?_lines reads feeds

/-- What `tracedCall` looks like on a terminal of the system that is used by default. -/
def writtenCall : Text :=
  ("\x1b[30;41mf(\x1b[0m\x1b[4;30;42mx\x1b[0m\x1b[30;41m, \x1b[0m\x1b[4;30;42mx\x1b[0m" ++
    "\x1b[30;41m)\x1b[0m\n\n\x1b[1mProvenance:\x1b[0m\n\x1b[30;41ma.py:3:1\x1b[0m\n" ++
    "\x1b[30;42mb.py:8:5\x1b[0m\n").toList

/-- The argument shows its own place and the emphasis, and the call around it its own place. -/
theorem shown_terminal_tracedCall :
    Render.plain .standard Render.tracedCall = .ok "f(x, x)\n".toList ∧
    ∃ segments,
      ((Session.after {} tracingSteps).run (.segments ⟨0⟩ .standard .standard .shared)).answer =
        .ok (.segments segments) ∧
      ((Session.after {} tracingSteps).run (.terminal ⟨0⟩ .standard .standard .shared)).answer =
        .ok (.text writtenCall) ∧
      (Screen.atRest []).read? writtenCall = some (.atRest (cells .eightBit segments)) ∧
      (cells .eightBit segments).take 4 =
        [⟨'f', ["30;41".toList]⟩, ⟨'(', ["30;41".toList]⟩, ⟨'x', ["4;30;42".toList]⟩,
          ⟨',', ["30;41".toList]⟩] ∧
      segmentsText segments = "f(x, x)\n\nProvenance:\na.py:3:1\nb.py:8:5\n".toList ∧
      (∀ cell ∈ cells .eightBit segments, cell.char = '\n' → cell.inForce = []) ∧
      ∀ line ∈ Text.lines writtenCall, ∃ shown,
        (Screen.atRest []).read? line = some (.atRest shown) := by
  have holds : (Session.after {} tracingSteps).drafts.read ⟨0⟩ = Render.tracedCall :=
    read_first rfl rfl
  have noLink : Tracing.standard.boundary.link = none := by decide
  rcases shown_terminal holds Render.plain_tracedCall noLink (by decide +kernel) (by decide +kernel)
    (by decide +kernel) .standard .shared with
    ⟨segments, written, inSegments, forTerminal, reads, chars, feeds, lines⟩
  have text :
      Answer.text? ((Session.after {} tracingSteps).run
        (.terminal ⟨0⟩ .standard .standard .shared)).answer = some writtenCall := by
    decide +kernel
  rw [forTerminal] at text
  have same : written = writtenCall := Option.some.inj text
  rw [same] at forTerminal reads lines
  have shown :
      ((Screen.atRest []).read? writtenCall).map (fun screen => screen.shown.take 4) =
        some [⟨'f', ["30;41".toList]⟩, ⟨'(', ["30;41".toList]⟩, ⟨'x', ["4;30;42".toList]⟩,
          ⟨',', ["30;41".toList]⟩] := by
    decide +kernel
  have spells :
      ((Screen.atRest []).read? writtenCall).map (fun screen => screen.shown.map Cell.char) =
        some "f(x, x)\n\nProvenance:\na.py:3:1\nb.py:8:5\n".toList := by
    decide +kernel
  rw [reads] at shown spells
  exact ⟨Render.plain_tracedCall, segments, inSegments, forTerminal, reads, Option.some.inj shown,
    chars.symm.trans (Option.some.inj spells), feeds, lines⟩

end Splice.Session
