import Splice.Proofs.Render.Forms
import Splice.Proofs.Session.Writing

namespace Splice.Session

/-!
# Three forms of one drawing

A drawing can be had in segments, written for a terminal and as a text with spans.  All three
show the same characters, whatever the session drew and wrote before, except that a text with
spans leaves out the characters that would ring or move a cursor (`forms_agree`, `forms_differ`).
-/

open Render (Segment segmentsText joined withoutCursorControls isCursorControl)

/-- A session that has done nothing yet, with the numbers that it rolls for links. -/
def rolling (rolls : Nat → Nat) : Session where
  shelf := { rolls := rolls }

/--
The text for a terminal without the sequences that select styles is what the segments spell, with
each link of the emphasis between the two sequences of the link, and without those it is what the
segments spell.  So is the text with spans, if no text that goes into the drawing holds a
character that it leaves out.  Its spans lie over exactly what is left of the segments that a
style is decided for, in order, each with the style of its segment.
-/
theorem forms_agree
    {rolls : Nat → Nat}
    {steps : List Step}
    {draft : Draft}
    {document : Document}
    (holds : ((rolling rolls).after steps).drafts.read draft = document)
    {rules : Spacing}
    {text : Text}
    (renders : Render.plain rules document = .ok text)
    {tracing : Tracing}
    (textsPlain : ∀ t ∈ document.texts, Style.escape ∉ t)
    (titlePlain : Style.escape ∉ tracing.legendTitle)
    (locationsPlain : ∀ token ∈ document.held, Style.escape ∉ token.location)
    (spacing : Spacing)
    (registry : RegistryId) :
    ∃ segments written styled,
      (((rolling rolls).after steps).run (.segments draft spacing tracing registry)).answer =
        .ok (.segments segments) ∧
      (((rolling rolls).after steps).run (.terminal draft spacing tracing registry)).answer =
        .ok (.text written) ∧
      (((rolling rolls).after steps).run (.styled draft spacing tracing registry)).answer =
        .ok (.styled styled) ∧
      (tracing.boundary.link = none →
        Style.withoutSelections written = segmentsText segments) ∧
      ((∀ address, tracing.boundary.link = some address → Style.escape ∉ address) →
        Style.withoutSelections written = (joined segments).flatMap (Segment.framed rolls) ∧
        Style.withoutLinks (Style.withoutSelections written) = segmentsText segments) ∧
      styled.Shows segments ∧
      ((∀ t ∈ document.texts, ∀ c ∈ t, isCursorControl c = false) →
        (∀ c ∈ tracing.legendTitle, isCursorControl c = false) →
        (∀ token ∈ document.held, ∀ c ∈ token.location, isCursorControl c = false) →
        styled.plain = segmentsText segments) := by
  subst holds
  have sound : ((rolling rolls).after steps).shelf.Sound := sound_shelf_after .of_empty steps
  let drawing : Drawing :=
    ⟨registry, spacing, tracing, ((rolling rolls).after steps).drafts.read draft⟩
  have drawable :
      ∃ segments, (((rolling rolls).after steps).drawn drawing).segments = .ok segments :=
    Render.debug_of_resolves spacing tracing _ _ (Render.resolves_of_plain renders)
  rcases drawable with ⟨segments, drew⟩
  have empty : (rolling rolls).shelf.Booked rolls _ := .of_empty rolls
  rcases booked_after empty steps with ⟨ledger, booked⟩
  rcases Render.booked_debug booked spacing tracing
    (((rolling rolls).after steps).registries.get registry)
    (((rolling rolls).after steps).drafts.read draft) with ⟨later, drawnBooked, listed⟩
  have noEscape : Style.escape ∉ segmentsText segments := by
    intro inText
    exact Render.holds_of_mem_segmentsText (P := (· ≠ Style.escape)) (by decide) (by decide)
      (by decide) (fun t among c member same => textsPlain t among (same ▸ member))
      (fun c member same => titlePlain (same ▸ member))
      (fun token among c member same => locationsPlain token among (same ▸ member))
      sound drew _ inText rfl
  have shown := Render.shows_styledText segments
  have answers (step : Step)
      (asked : ((rolling rolls).after steps).drawing? step = some drawing) :
      (((rolling rolls).after steps).run step).answer =
        .ok (step.shown (((rolling rolls).after steps).drawn drawing).shelf segments) := by
    rw [answer_of_drawing? asked, drew]
  have dropped
      (addressPlain : ∀ address,
        tracing.boundary.link = some address → Style.escape ∉ address) :
      Style.withoutSelections (Render.ansi tracing.system _ segments).1 = _ ∧ _ :=
    Render.withoutSelections_ansi drawnBooked (listed segments drew) noEscape
      (Render.addresses_debug sound drew addressPlain)
  refine ⟨segments, _, _, answers _ rfl, answers _ rfl, answers _ rfl, ?_, ?_, shown, ?_⟩
  · intro noLink
    have unlinked := Render.unlinked_debug sound drew noLink
    have noAddress :
        ∀ address, tracing.boundary.link = some address → Style.escape ∉ address := by
      intro address linked
      cases noLink.symm.trans linked
    rw [← Render.flatMap_framed_of_unlinked rolls unlinked]
    exact (dropped noAddress).1
  · intro addressPlain
    rcases dropped addressPlain with ⟨framed, left⟩
    exact ⟨framed, (congrArg Style.withoutLinks framed).trans left⟩
  · intro texts title locations
    have kept := Render.holds_of_mem_segmentsText (P := fun c => isCursorControl c = false)
      (by decide) (by decide) (by decide) texts title locations sound drew
    exact shown.plain_eq_segmentsText kept

/-- The text that an answer in segments spells, and that of a text with spans. -/
def Answer.spelled? : Except Fault Answer → Option Text
  | .ok (.segments drawn) => some (segmentsText drawn)
  | .ok (.styled shown) => some shown.plain
  | _ => none

/-- A call with a tabulator in its text. -/
def tabbedCall : Document :=
  [.marker callSite, .fixed "f(\t".toList, .block [.owned "x".toList], .fixed ")".toList,
    .newline]

/-- Settings for a system, with an emphasis that is a link. -/
def pinkLink (system : ColourSystem) : Tracing where
  legendTitle := "Provenance".toList
  system := system
  definition := "color(200) link https://a.b".toList
  boundary :=
    { foreground := some ⟨"color(200)".toList, .numbered 200⟩, link := some "https://a.b".toList }
  defined := by decide +kernel

/-- A session that wrote a call for a larger system before. -/
def tabbedSteps : List Step :=
  [.begin tabbedCall, .terminal ⟨0⟩ .standard (pinkLink .eightBit) .shared]

/-- What the call looks like for the standard system, with a number for its link. -/
def writtenTabbedCall : Text :=
  ("\x1b[30;41mf(\t\x1b[0m\x1b]8;id=107;https://a.b\x1b\\\x1b[35;41mx\x1b[0m\x1b]8;;\x1b\\" ++
    "\x1b[30;41m)\x1b[0m\n\n\x1b[1mProvenance:\x1b[0m\n\x1b[30;41ma.py:3:1\x1b[0m\n").toList

/-- The link has a number and the codes of the standard system, and the text shows neither. -/
theorem forms_agree_tabbedCall :
    Render.plain .standard tabbedCall = .ok "f(\tx)\n".toList ∧
    (∀ t ∈ tabbedCall.texts, Style.escape ∉ t) ∧
    Style.escape ∉ (pinkLink .standard).legendTitle ∧
    (∀ token ∈ tabbedCall.held, Style.escape ∉ token.location) ∧
    ∃ segments styled,
      (((rolling (100 + ·)).after tabbedSteps).run
          (.segments ⟨0⟩ .standard (pinkLink .standard) .shared)).answer =
        .ok (.segments segments) ∧
      (((rolling (100 + ·)).after tabbedSteps).run
          (.terminal ⟨0⟩ .standard (pinkLink .standard) .shared)).answer =
        .ok (.text writtenTabbedCall) ∧
      (((rolling (100 + ·)).after tabbedSteps).run
          (.styled ⟨0⟩ .standard (pinkLink .standard) .shared)).answer =
        .ok (.styled styled) ∧
      Style.withoutLinks (Style.withoutSelections writtenTabbedCall) =
        "f(\tx)\n\nProvenance:\na.py:3:1\n".toList ∧
      styled.Shows segments ∧
      styled.plain = "f(\tx)\n\nProvenance:\na.py:3:1\n".toList := by
  have holds : ((rolling (100 + ·)).after tabbedSteps).drafts.read ⟨0⟩ = tabbedCall :=
    read_first rfl rfl
  have renders : Render.plain .standard tabbedCall = .ok "f(\tx)\n".toList :=
    Render.plain_of_layAll (by decide +kernel) (by decide +kernel)
  have textsPlain : ∀ t ∈ tabbedCall.texts, Style.escape ∉ t := by decide +kernel
  have titlePlain : Style.escape ∉ (pinkLink .standard).legendTitle := by decide +kernel
  have locationsPlain : ∀ token ∈ tabbedCall.held, Style.escape ∉ token.location := by
    decide +kernel
  have text :
      Answer.text? (((rolling (100 + ·)).after tabbedSteps).run
        (.terminal ⟨0⟩ .standard (pinkLink .standard) .shared)).answer =
      some writtenTabbedCall := by
    decide +kernel
  have spells :
      Answer.spelled? (((rolling (100 + ·)).after tabbedSteps).run
        (.segments ⟨0⟩ .standard (pinkLink .standard) .shared)).answer =
      some "f(\tx)\n\nProvenance:\na.py:3:1\n".toList := by
    decide +kernel
  rcases forms_agree holds renders textsPlain titlePlain locationsPlain .standard .shared with
    ⟨segments, written, styled, inSegments, forTerminal, withSpans, _, linked, shown, agree⟩
  rw [inSegments] at spells
  rw [forTerminal] at text
  have same : written = writtenTabbedCall := Option.some.inj text
  rw [same] at forTerminal linked
  have address :
      ∀ address, (pinkLink .standard).boundary.link = some address → Style.escape ∉ address := by
    rintro address ⟨⟩
    decide
  have texts : (tabbedCall.texts.all fun t => t.all fun c => !isCursorControl c) = true := by
    decide +kernel
  have title : ((pinkLink .standard).legendTitle.all fun c => !isCursorControl c) = true := by
    decide +kernel
  have locations :
      (tabbedCall.held.all fun token => token.location.all fun c => !isCursorControl c) = true := by
    decide +kernel
  simp only [List.all_eq_true, Bool.not_eq_true'] at texts title locations
  have kept := agree texts title locations
  rw [Option.some.inj spells] at kept linked
  exact ⟨renders, textsPlain, titlePlain, locationsPlain, segments, styled, inSegments,
    forTerminal, withSpans, (linked address).2, shown, kept⟩

/-- A text that rings. -/
def ringing : Document :=
  [.fixed "a\x07b".toList]

/-- A bell is in the segments and in the text for a terminal, but not in the text with spans. -/
theorem forms_differ :
    Answer.spelled? ((Session.after {} [.begin ringing]).run
        (.segments ⟨0⟩ .standard .standard .shared)).answer =
      some "a\x07b\n\nProvenance:\n".toList ∧
    Answer.text? ((Session.after {} [.begin ringing]).run
        (.terminal ⟨0⟩ .standard .standard .shared)).answer =
      some "a\x07b\n\n\x1b[1mProvenance:\x1b[0m\n".toList ∧
    Answer.spelled? ((Session.after {} [.begin ringing]).run
        (.styled ⟨0⟩ .standard .standard .shared)).answer =
      some "ab\n\nProvenance:\n".toList := by
  decide +kernel

end Splice.Session
