import Splice.Proofs.Session.SoundShelves

namespace Splice

/-!
# The legend

A walk enters the block of a reference once more, and each time it meets the markers of the
block again.  None of them is new by then: the block stands before the reference in the same
sequence, and whatever a walk meets inside it was met when the block itself was walked.  So
the legend lists the places that the operations of a document hold by themselves, in
pre-order and with the references left out (`Document.places_eq`).
-/

mutual

/-- The tokens of the markers that an operation holds, in pre-order; a reference holds none. -/
def Operation.held : Operation → List Token
  | .block operations => Document.held operations
  | .marker token => [token]
  | _ => []

def Document.held : Document → List Token
  | [] => []
  | operation :: rest => operation.held ++ Document.held rest

end

namespace Render

/-- A token of the same place was met before. -/
def Knows (met : List Token) (token : Token) : Prop :=
  met.any (fun other => other.same token) = true

namespace Knows

variable {met : List Token} {token : Token}

theorem meetToken
    (knows : Knows met token)
    (other : Token) :
    Knows (Render.meetToken met other) token := by
  unfold Render.meetToken
  split
  · exact knows
  · simp only [Knows, List.any_append, Bool.or_eq_true]
    exact .inl knows

theorem of_meetToken
    (met : List Token)
    (token : Token) :
    Knows (Render.meetToken met token) token := by
  unfold Render.meetToken
  split
  · next known => exact known
  · simp [Knows, Token.same]

theorem foldl
    (knows : Knows met token)
    (tokens : List Token) :
    Knows (tokens.foldl Render.meetToken met) token := by
  induction tokens generalizing met with
  | nil => exact knows
  | cons other rest inductionHypothesis => exact inductionHypothesis (knows.meetToken other)

theorem of_mem
    {tokens : List Token}
    (member : token ∈ tokens)
    (met : List Token) :
    Knows (tokens.foldl Render.meetToken met) token := by
  induction tokens generalizing met with
  | nil => cases member
  | cons other rest inductionHypothesis =>
      rcases List.mem_cons.mp member with rfl | later
      · exact (of_meetToken met token).foldl rest
      · exact inductionHypothesis later _

/-- Tokens that are all known add nothing. -/
theorem foldl_eq_self
    {tokens : List Token}
    (known : ∀ token ∈ tokens, Knows met token) :
    tokens.foldl Render.meetToken met = met := by
  induction tokens with
  | nil => rfl
  | cons token rest inductionHypothesis =>
      have first : Render.meetToken met token = met := if_pos (known token List.mem_cons_self)
      rw [List.foldl_cons, first]
      exact inductionHypothesis fun other member => known other (List.mem_cons_of_mem token member)

end Knows

end Render

open Render (meetToken Knows)

/-- A reference repeats a block that stands before it, or nothing. -/
theorem Node.mem_of_mem_tokens_ofOffset
    {earlier : List Node}
    {offset : Int}
    {token : Token}
    (member : token ∈ (Node.ofOffset earlier offset).tokens) :
    ∃ node ∈ earlier, token ∈ node.tokens := by
  unfold Node.ofOffset at member
  split at member
  · cases member
  · split at member
    · cases member
    · next nodes there => exact ⟨.block nodes, List.mem_of_getElem? there, member⟩
    · cases member

mutual

/-- Walking the node of an operation meets no other new token than the operation holds. -/
theorem Operation.foldl_tokens_node
    {earlier : List Node}
    {met : List Token}
    (known : ∀ node ∈ earlier, ∀ token ∈ node.tokens, Knows met token) :
    ∀ operation : Operation,
      (operation.node earlier).tokens.foldl meetToken met = operation.held.foldl meetToken met
  | .newline | .fixed _ | .owned _ | .marker _ => rfl
  | .block operations =>
      Document.foldl_tokens_nodesAfter (fun _ none => by cases none) operations
  | .back offset => by
      apply Knows.foldl_eq_self
      intro token member
      rcases Node.mem_of_mem_tokens_ofOffset member with ⟨node, before, inside⟩
      exact known node before token inside

theorem Document.foldl_tokens_nodesAfter
    {earlier : List Node}
    {met : List Token}
    (known : ∀ node ∈ earlier, ∀ token ∈ node.tokens, Knows met token) :
    ∀ operations : List Operation,
      (Node.allTokens (Document.nodesAfter earlier operations)).foldl meetToken met =
        (Document.held operations).foldl meetToken met
  | [] => rfl
  | operation :: rest => by
      have first := operation.foldl_tokens_node known
      simp only [Document.nodesAfter, Node.allTokens, Document.held, List.foldl_append, ← first]
      apply Document.foldl_tokens_nodesAfter
      intro node before token inside
      rcases List.mem_cons.mp before with rfl | earlierStill
      · exact .of_mem inside met
      · exact (known node earlierStill token inside).foldl _

end

/-- The places a document comes from are those of the markers that it holds by itself. -/
theorem Document.places_eq
    (document : Document) :
    document.places = document.held.eraseDupsBy Token.same := by
  have same :
      (Node.allTokens (Document.nodesAfter [] document)).foldl meetToken [] =
        (Document.held document).foldl meetToken [] :=
    Document.foldl_tokens_nodesAfter (fun _ none => by cases none) document
  simpa [Render.foldl_meetToken, Document.places, Document.nodes] using same

/-- The legend of some places: a title, and each place once, on a line of its own and in its own style. -/
def Scheme.legend (scheme : Scheme) (title : Text) (places : List Token) :
    List (Render.Segment Style) :=
  ⟨title ++ [':'], some Ink.title.style⟩ ::
    places.flatMap (fun token => [⟨['\n'], none⟩, ⟨token.location, some (scheme.colours token)⟩]) ++
    [⟨['\n'], none⟩]

namespace Render

theorem map_styled_legend
    {tracing : Tracing}
    {registry : Registry}
    {seen : List (Token × Ink)}
    {places : List Token}
    (listed :
      seen.map (fun entry => (entry.1, entry.2.style)) =
        places.map fun token => (token, (Scheme.of tracing registry).colours token)) :
    (legend tracing seen).map Segment.styled =
      (Scheme.of tracing registry).legend tracing.legendTitle places := by
  simp [legend, Scheme.legend, map_styled_entries, listed, List.flatMap_map, Segment.styled]

/-- What separates a body from its legend are line feeds without a style. -/
theorem eq_feed_of_mem_legendGap
    {body : List (Segment Ink)}
    {segment : Segment Ink}
    (member : segment ∈ legendGap body) :
    segment = ⟨['\n'], none⟩ := by
  unfold legendGap at member
  split at member
  · cases member
  · split at member <;> simpa using member

end Render

namespace Session

/--
At any moment of a session, the legend of a document that renders lists every place whose
marker the document holds by itself: once, in pre-order, as the first marker of the place has
it, and in the style that the registry has for it, without the emphasis of the block that the
marker may stand in.  Text that is empty or stands on a line that is dropped has no part in
this, and references add nothing.
-/
theorem legend_of_runAll
    {steps : List Step}
    {outcome : Outcome}
    (reached : outcome ∈ Session.runAll {} steps)
    {rules : Spacing}
    {document : Document}
    {text : Text}
    (renders : Render.plain rules document = .ok text)
    (spacing : Spacing)
    (tracing : Tracing)
    (registry : Registry) :
    let drawn := Render.debug spacing tracing registry outcome.session.shelf document
    let scheme := Scheme.of tracing drawn.registry
    let places := document.held.eraseDupsBy Token.same
    (∃ body gap,
      drawn.segments.map (List.map Render.Segment.styled) =
        .ok (body ++ gap ++ scheme.legend tracing.legendTitle places) ∧
      body = Render.collapseStyled spacing (scheme.layout document) ∧
      ∀ segment ∈ gap, segment = ⟨['\n'], none⟩) ∧
    ∀ token ∈ places,
      drawn.registry.isColoured token = true ∧
      scheme.colours token = Palette.style (drawn.registry.colourOf token) := by
  have sound := sound_shelf_runAll .of_empty reached
  have resolves := Render.resolves_of_plain renders
  rcases Render.debug_of_resolves spacing tracing registry outcome.session.shelf resolves with
    ⟨segments, rendered⟩
  rcases Render.styled_debug_of_grown sound rendered (List.prefix_refl _) with
    ⟨body, seen, rfl, styled, listed⟩
  have registered := (Render.styled_debug sound rendered).1
  rw [Document.places_eq] at listed registered
  refine ⟨⟨body.map Render.Segment.styled, (Render.legendGap body).map Render.Segment.styled,
    ?_, styled, ?_⟩, ?_⟩
  · rw [rendered]
    simp only [Except.map, Render.withLegend, List.map_append, Render.map_styled_legend listed]
  · intro segment member
    rcases List.mem_map.mp member with ⟨source, inGap, rfl⟩
    rw [Render.eq_feed_of_mem_legendGap inGap]
    rfl
  · intro token member
    refine ⟨?_, rfl⟩
    rw [registered]
    exact registry.isColoured_colourAll member

/-- The place of a line that holds nothing but blanks. -/
def blankSite : Token := ⟨3, "c.py".toList, 1, 1⟩

/--
The argument comes first and is used twice, its place is met again under another location,
and the last place has nothing to show.
-/
def hiddenPlaces : Document :=
  [.block [.marker argumentSite, .owned "x".toList], .marker callSite, .fixed "+".toList,
    .back 3, .marker { argumentSite with line := 9 }, .newline, .marker blankSite,
    .fixed " ".toList, .newline]

/-- Three places get the first three colours, in the order in which their markers are met. -/
theorem legend_hiddenPlaces :
    Render.plain .standard hiddenPlaces = .ok "x+x\n".toList ∧
    ∃ outcome ∈ Session.runAll {} tracingSteps, ∃ front,
      (Render.debug .standard .standard {} outcome.session.shelf hiddenPlaces).segments.map
          (List.map Render.Segment.styled) =
        .ok (front ++
          [⟨"Provenance:".toList, some (Style.null.set .bold true)⟩,
            ⟨['\n'], none⟩, ⟨"b.py:8:5".toList, some (blackOn 1)⟩,
            ⟨['\n'], none⟩, ⟨"a.py:3:1".toList, some (blackOn 2)⟩,
            ⟨['\n'], none⟩, ⟨"c.py:1:1".toList, some (blackOn 3)⟩,
            ⟨['\n'], none⟩]) := by
  have resolves : hiddenPlaces.Resolves := by decide +kernel
  have renders : Render.plain .standard hiddenPlaces = .ok "x+x\n".toList :=
    Render.plain_of_layAll resolves (by decide +kernel)
  rcases exists_mem_runAll_tracingSteps with ⟨outcome, reached⟩
  rcases (legend_of_runAll reached renders .standard .standard {}).1 with
    ⟨body, gap, rendered, _, _⟩
  refine ⟨renders, outcome, reached, body ++ gap, ?_⟩
  have places :
      (Document.held hiddenPlaces).eraseDupsBy Token.same =
        [argumentSite, callSite, blankSite] := by decide +kernel
  have registered :
      (Render.debug .standard .standard {} outcome.session.shelf hiddenPlaces).registry =
        Registry.colourAll {} hiddenPlaces.met :=
    Render.registry_debug .standard .standard _ _ hiddenPlaces
  have colours :
      [argumentSite, callSite, blankSite].map
          (fun token => Palette.style ((Registry.colourAll {} hiddenPlaces.met).colourOf token)) =
        [blackOn 1, blackOn 2, blackOn 3] := by
    decide +kernel
  simp only [List.map_cons, List.map_nil, List.cons.injEq] at colours
  rw [rendered, places, registered]
  simp only [Scheme.legend, Scheme.of, List.flatMap_cons, List.flatMap_nil, colours]
  rfl

end Session

end Splice
