import Splice.Proofs.Render.PlainLayout
import Splice.Render.Debug

namespace Splice

/-!
# Debug rendering keeps the text

Debug rendering walks with another pen, so its body has the text of plain rendering
and the same faults.  What stands between the body and the legend is decided by the
last segment of the body alone.  As long as no text of the document holds a line
feed, that segment tells whether the whole body ends with one: it is either the
breaks of the end or a part of a line that is not blank (`Render.Closed`).
-/

theorem Token.same_comm
    (left right : Token) :
    left.same right = right.same left := by
  unfold same
  exact Bool.beq_comm

mutual

/-- The tokens of a node's markers in the order of a walk. -/
def Node.tokens : Node → List Token
  | .block nodes | .again nodes => Node.allTokens nodes
  | .marker token => [token]
  | _ => []

def Node.allTokens : List Node → List Token
  | [] => []
  | node :: rest => node.tokens ++ Node.allTokens rest

end

mutual

/-- The tokens that a walk of a node meets until it comes to its end or to a fault. -/
def Node.met : Node → List Token
  | .block nodes | .again nodes => Node.allMet nodes
  | .marker token => [token]
  | _ => []

def Node.allMet : List Node → List Token
  | [] => []
  | node :: rest => node.met ++ if node.fault?.isNone then Node.allMet rest else []

end

mutual

/-- A walk that is not stopped meets all tokens. -/
theorem Node.met_of_fault? :
    ∀ {node : Node}, node.fault? = none → node.met = node.tokens
  | .newline, _ | .fixed _, _ | .owned _, _ | .broken _, _ | .marker _, _ => rfl
  | .block _, resolves | .again _, resolves => Node.allMet_of_firstFault? resolves

/-- A walk that is not stopped meets every token. -/
theorem Node.allMet_of_firstFault? :
    ∀ {nodes : List Node}, Node.firstFault? nodes = none → Node.allMet nodes = Node.allTokens nodes
  | [], _ => rfl
  | node :: rest, resolves => by
      rcases Option.or_eq_none_iff.mp resolves with ⟨first, later⟩
      simp [Node.allMet, Node.allTokens, first, Node.met_of_fault? first,
        Node.allMet_of_firstFault? later]

end

/-- The tokens that a walk of a document meets until it comes to its end or to a fault. -/
def Document.met (document : Document) : List Token :=
  Node.allMet document.nodes

/-- The places a document comes from, each where a walk meets it first. -/
def Document.places (document : Document) : List Token :=
  (Node.allTokens document.nodes).eraseDupsBy Token.same

namespace Render

/-- A body with what separates it from a legend. -/
def separated (body : Text) : Text :=
  if body = [] then []
  else if body.getLast? = some '\n' then body ++ ['\n']
  else body ++ ['\n', '\n']

/--
The text of a legend: its title, and the location of each token on a line of its
own.
-/
def legendText (title : Text) (tokens : List Token) : Text :=
  title ++ ':' :: tokens.flatMap (fun token => '\n' :: token.location) ++ ['\n']

/-- The text of the legend is its title with the places of the tokens below it. -/
theorem segmentsText_legend
    (tracing : Tracing)
    (seen : List (Token × Ink)) :
    segmentsText (legend tracing seen) =
      legendText tracing.legendTitle (seen.map Prod.fst) := by
  have entries :
      segmentsText (seen.flatMap legendEntry) =
        (seen.map Prod.fst).flatMap fun token => '\n' :: token.location := by
    induction seen with
    | nil => rfl
    | cons entry rest inductionHypothesis =>
        simp [legendEntry, inductionHypothesis]
  simp [legend, legendText, entries]

variable {σ : Type}

/-- Segments without a line feed whose text is not blank. -/
structure SolidLine (line : List (Segment Ink)) : Prop where
  free : ∀ segment ∈ line, '\n' ∉ segment.text
  solid : Text.allBlank (segmentsText line) = false

/-- Output that ends with a line that is not blank, if it holds anything. -/
def EndsSolid (output : List (Segment Ink)) : Prop :=
  output = [] ∨ ∃ front line, output = front ++ line ∧ SolidLine line

/--
A sheet without a line feed in the line under construction or at the end of its
output.
-/
structure Tidy (sheet : Sheet Ink) : Prop where
  line : ∀ segment ∈ sheet.line, '\n' ∉ segment.text
  output : EndsSolid sheet.output

namespace Tidy

variable {sheet : Sheet Ink}

theorem of_start : Tidy (Sheet.start : Sheet Ink) where
  line := by
    intro segment member
    cases member
  output := .inl rfl

theorem write
    (tidy : Tidy sheet)
    {text : Text}
    (noFeed : '\n' ∉ text)
    (ink : Ink) :
    Tidy (sheet.write text ink) where
  line := by
    intro segment member
    rcases List.mem_append.mp member with before | new
    · exact tidy.line segment before
    · rw [List.mem_singleton.mp new]
      exact noFeed
  output := tidy.output

theorem flush
    (tidy : Tidy sheet)
    (spacing : Spacing)
    (column : Nat) :
    Tidy (sheet.flush spacing column) where
  line := by
    intro segment member
    simp only [Sheet.flush, Hooks.padding, paddedLine] at member
    split at member
    · cases member
    · rw [List.mem_singleton.mp member]
      simp [List.mem_replicate]
  output := by
    cases blank : Text.allBlank sheet.lineText with
    | true => simpa [Sheet.flush, blank] using tidy.output
    | false =>
        simp only [Sheet.flush, blank, Bool.false_eq_true, ↓reduceIte, Sheet.emit]
        exact .inr ⟨_, sheet.line, rfl, tidy.line, blank⟩

theorem breakLine
    (tidy : Tidy sheet)
    (spacing : Spacing)
    (column : Nat) :
    Tidy (sheet.breakLine spacing column) := by
  have flushed := tidy.flush spacing column
  unfold Sheet.breakLine
  dsimp only
  split
  · exact ⟨flushed.line, flushed.output⟩
  · exact flushed

end Tidy

mutual

/-- A walk of a node whose texts hold no line feed keeps the sheet tidy. -/
theorem Tidy.walk
    {pen : Pen σ Ink} {spacing : Spacing} {base : Nat} {desk done : Desk σ Ink}
    (tidy : Tidy desk.sheet) :
    ∀ {node : Node},
      node.isFeedFree = true →
      walk pen spacing base desk node = .ok done →
      Tidy done.sheet
  | .newline, _, walked => by
      cases walked
      exact tidy.breakLine spacing base
  | .fixed text, free, walked | .owned text, free, walked => by
      cases walked
      exact tidy.write (by simpa [Node.isFeedFree] using free) _
  | .marker _, _, walked => by
      cases walked
      exact tidy
  | .broken _, _, walked => by
      cases walked
  | .block nodes, free, walked | .again nodes, free, walked => by
      obtain ⟨inside, walkedInside, rfl⟩ := (walk_block_eq_ok_iff base).mp walked
      have entered : Tidy ({ desk with hand := pen.enter desk.hand } : Desk σ Ink).sheet := tidy
      have kept := Tidy.walkAll entered free walkedInside
      exact kept

/-- A walk of nodes whose texts hold no line feed keeps the sheet tidy. -/
theorem Tidy.walkAll
    {pen : Pen σ Ink} {spacing : Spacing} {base : Nat} {desk done : Desk σ Ink}
    (tidy : Tidy desk.sheet) :
    ∀ {nodes : List Node},
      Node.areFeedFree nodes = true →
      walkAll pen spacing base desk nodes = .ok done →
      Tidy done.sheet
  | [], _, walked => by
      cases walked
      exact tidy
  | node :: rest, free, walked => by
      obtain ⟨next, walkedFirst, walkedRest⟩ := walkAll_cons_eq_ok_iff.mp walked
      simp only [Node.areFeedFree, Bool.and_eq_true] at free
      exact Tidy.walkAll (Tidy.walk tidy free.1 walkedFirst) free.2 walkedRest

end

/--
Output that is complete: it is empty, or it ends with a line that is not blank or
with breaks.
-/
def Closed (output : List (Segment Ink)) : Prop :=
  EndsSolid output ∨ ∃ front, output = front ++ breaks 1

/-- The output of a tidy sheet is complete when it is finished. -/
theorem Tidy.closed_finish
    {sheet : Sheet Ink}
    (tidy : Tidy sheet)
    (spacing : Spacing) :
    Closed (sheet.finish spacing).output := by
  unfold Sheet.finish
  dsimp only
  split
  · exact .inr ⟨_, rfl⟩
  · exact .inl (tidy.flush spacing 0).output

namespace SolidLine

variable {line : List (Segment Ink)}

/-- A solid line has text, and none of it is a line feed. -/
theorem text
    (solidLine : SolidLine line) :
    segmentsText line ≠ [] ∧ '\n' ∉ segmentsText line := by
  constructor
  · intro empty
    have solid := solidLine.solid
    rw [empty] at solid
    cases solid
  · intro feed
    obtain ⟨segment, member, inSegment⟩ := List.mem_flatMap.mp feed
    exact solidLine.free segment member inSegment

/-- A solid line has a last segment, which does not end with a line feed. -/
theorem last
    (solidLine : SolidLine line)
    (front : List (Segment Ink)) :
    ∃ last, (front ++ line).getLast? = some last ∧ last.text.getLast? ≠ some '\n' := by
  have notEmpty : line ≠ [] := by
    rintro rfl
    exact solidLine.text.1 rfl
  refine ⟨line.getLast notEmpty, ?_, ?_⟩
  · simp [List.getLast?_append, List.getLast?_eq_some_getLast notEmpty]
  · intro ends
    exact solidLine.free _ (List.getLast_mem notEmpty) (List.mem_of_getLast? ends)

end SolidLine

/--
What debug rendering puts between complete output and the legend is what the text
asks for.
-/
theorem segmentsText_legendGap
    {output : List (Segment Ink)}
    (closed : Closed output) :
    segmentsText (output ++ legendGap output) = separated (segmentsText output) := by
  rcases closed with (rfl | ⟨front, line, rfl, solidLine⟩) | ⟨front, rfl⟩
  · rfl
  -- The last segment may be empty, so its open end has to come from the line as a
  -- whole.
  · obtain ⟨notEmpty, noFeed⟩ := solidLine.text
    obtain ⟨last, isLast, lastOpen⟩ := solidLine.last front
    have bodyNotEmpty : segmentsText (front ++ line) ≠ [] := by simp [notEmpty]
    have bodyOpen : (segmentsText (front ++ line)).getLast? ≠ some '\n' := by
      rw [segmentsText_append, List.getLast?_append, List.getLast?_eq_some_getLast notEmpty]
      intro ends
      exact noFeed (Option.some.inj ends ▸ List.getLast_mem notEmpty)
    rw [segmentsText_append]
    simp only [separated, bodyNotEmpty, bodyOpen, ↓reduceIte]
    simp [legendGap, isLast, lastOpen]
  · simp [legendGap, separated, breaks]

/-- Meet a token after others: a token that is met again changes nothing. -/
def meetToken (met : List Token) (token : Token) : List Token :=
  if met.any fun other => other.same token then met else met ++ [token]

/-- Meeting tokens one after another keeps each at its first place. -/
theorem foldl_meetToken
    (met tokens : List Token) :
    tokens.foldl meetToken met =
      met ++ (tokens.filter fun token => !met.any fun other => other.same token).eraseDupsBy
        Token.same := by
  induction tokens generalizing met with
  | nil => simp
  | cons token rest inductionHypothesis =>
      rw [List.foldl_cons, inductionHypothesis]
      unfold meetToken
      by_cases known : met.any fun other => other.same token
      · simp [known]
      · simp [known, List.eraseDupsBy_cons, List.filter_filter, Token.same_comm token,
          Bool.and_comm]

namespace Hand

variable (tracing : Tracing) (hand : Hand)

/-- A hand that begins again is like a new one. -/
theorem restart_eq_start
    (registry : Registry)
    (shelf : Shelf) :
    hand.restart registry shelf = start registry shelf :=
  rfl

@[simp] theorem seen_emphasise (ink : Ink) :
    (hand.emphasise tracing ink).2.seen = hand.seen := by
  have kept : (hand.boundary tracing).2.seen = hand.seen := by
    unfold boundary
    split <;> rfl
  exact kept

@[simp] theorem seen_enter : (hand.enter tracing).seen = hand.seen :=
  seen_emphasise tracing hand hand.ink

theorem seen_inkOf (token : Token) :
    (hand.inkOf token).2.seen.map Prod.fst =
      meetToken (hand.seen.map Prod.fst) token := by
  unfold inkOf seenInk?
  cases found : hand.seen.find? fun entry => entry.1.same token with
  | some entry =>
      have known := List.find?_some found
      have member := List.mem_of_find?_eq_some found
      have met : (hand.seen.map Prod.fst).any (fun other => other.same token) = true :=
        List.any_eq_true.mpr ⟨entry.1, List.mem_map_of_mem member, known⟩
      simp [meetToken, met]
  | none =>
      have unknown := List.find?_eq_none.mp found
      have met : (hand.seen.map Prod.fst).any (fun other => other.same token) = false := by
        simpa [List.any_eq_false] using unknown
      simp [meetToken, met, meet]

theorem seen_mark (token : Token) :
    (hand.mark tracing token).seen.map Prod.fst =
      meetToken (hand.seen.map Prod.fst) token := by
  rw [← seen_inkOf]
  unfold mark
  dsimp only
  split
  · rfl
  · exact congrArg (List.map Prod.fst)
      (seen_emphasise tracing (hand.inkOf token).2 (hand.inkOf token).1)

end Hand

/-- The hand after a walk, which may have been stopped. -/
def handAfter : Except (Stopped σ μ) (Desk σ μ) → σ
  | .ok done => done.hand
  | .error (_, left) => left.hand

mutual

/-- A walk of a node lists the tokens that it meets, also where it is stopped. -/
theorem seen_walk
    (tracing : Tracing) (spacing : Spacing) (base : Nat) (desk : Desk Hand Ink) :
    ∀ node : Node,
      (handAfter (walk (debugPen tracing) spacing base desk node)).seen.map Prod.fst =
        node.met.foldl meetToken (desk.hand.seen.map Prod.fst)
  | .newline | .fixed _ | .owned _ | .broken _ => rfl
  | .marker token => Hand.seen_mark tracing desk.hand token
  | .block nodes | .again nodes => by
      have met := seen_walkAll tracing spacing desk.sheet.column
        { desk with hand := (debugPen tracing).enter desk.hand } nodes
      simp only [debugPen, Hand.seen_enter] at met
      simp only [walk, debugPen, bind, Except.bind, Node.met]
      rw [← met]
      generalize walkAll _ spacing desk.sheet.column (_ : Desk Hand Ink) nodes = result
      cases result with
      | error stopped => rfl
      | ok inside => rfl

/-- A walk of nodes lists the tokens that it meets, also where it is stopped. -/
theorem seen_walkAll
    (tracing : Tracing) (spacing : Spacing) (base : Nat) (desk : Desk Hand Ink) :
    ∀ nodes : List Node,
      (handAfter (walkAll (debugPen tracing) spacing base desk nodes)).seen.map Prod.fst =
        (Node.allMet nodes).foldl meetToken (desk.hand.seen.map Prod.fst)
  | [] => rfl
  | node :: rest => by
      have first := seen_walk tracing spacing base desk node
      have stopped := stoppedBy?_walk (debugPen tracing) spacing base desk node
      simp only [walkAll, bind, Except.bind, Node.allMet, ← stopped, List.foldl_append, ← first]
      cases walk (debugPen tracing) spacing base desk node with
      | error stopped => rfl
      | ok next => exact seen_walkAll tracing spacing base next rest

end

/-- A walk of a document lists the tokens that it meets, also where it is stopped. -/
theorem seen_walkDocument
    (tracing : Tracing)
    (spacing : Spacing)
    (desk : Desk Hand Ink)
    (document : Document) :
    (handAfter (walkDocument (debugPen tracing) spacing desk document)).seen.map Prod.fst =
      document.met.foldl meetToken (desk.hand.seen.map Prod.fst) := by
  rw [Document.met, ← seen_walkAll tracing spacing 0 desk document.nodes]
  simp only [walkDocument, bind, Except.bind]
  cases walkAll (debugPen tracing) spacing 0 desk document.nodes with
  | error stopped => rfl
  | ok walked => rfl

/-- A walk of a document with the debug pen lists the places that it comes from. -/
theorem places_of_walkDocument
    {tracing : Tracing}
    {spacing : Spacing}
    {registry : Registry}
    {shelf : Shelf}
    {document : Document}
    {done : Desk Hand Ink}
    (walked :
      walkDocument (debugPen tracing) spacing
          ⟨Sheet.start, Hand.start registry shelf⟩ document =
        .ok done) :
    done.hand.seen.map Prod.fst = document.places := by
  have met := seen_walkDocument tracing spacing ⟨Sheet.start, Hand.start registry shelf⟩ document
  have stopped := stoppedBy?_walkDocument (debugPen tracing) spacing
    ⟨Sheet.start, Hand.start registry shelf⟩ document
  rw [walked] at met stopped
  rw [Document.met, Node.allMet_of_firstFault? stopped.symm, foldl_meetToken,
    List.filter_eq_self.mpr (by simp [Hand.start])] at met
  exact met

/-- A walk of a document with the debug pen leaves complete output. -/
theorem closed_of_walkDocument
    {tracing : Tracing}
    {spacing : Spacing}
    {registry : Registry}
    {shelf : Shelf}
    {document : Document}
    {done : Desk Hand Ink}
    (free : document.FeedFree)
    (walked :
      walkDocument (debugPen tracing) spacing
          ⟨Sheet.start, Hand.start registry shelf⟩ document =
        .ok done) :
    Closed done.sheet.output := by
  obtain ⟨last, walkedAll, rfl⟩ := walkDocument_eq_ok_iff.mp walked
  have start : Tidy (⟨Sheet.start, Hand.start registry shelf⟩ : Desk Hand Ink).sheet :=
    .of_start
  have tidy := Tidy.walkAll start (Document.feedFree_iff.mp free) walkedAll
  exact tidy.closed_finish spacing

/--
Debug rendering refuses what plain rendering refuses, for the same reason, and its
segments spell the plain text, a separator that this text asks for, and a legend of
the places that the document comes from.
-/
theorem segmentsText_debug
    (spacing : Spacing)
    (tracing : Tracing)
    (registry : Registry)
    (shelf : Shelf)
    {document : Document}
    (free : document.FeedFree) :
    (debug spacing tracing registry shelf document).segments.map segmentsText =
      (plain spacing document).map fun body =>
        separated body ++ legendText tracing.legendTitle document.places := by
  have stopped := stoppedBy?_walkDocument (debugPen tracing) spacing
    ⟨Sheet.start, Hand.start registry shelf⟩ document
  rw [plain_eq]
  unfold debug DebugRenderer.render
  simp only [Sheet.restart_eq_start, Hand.restart_eq_start]
  cases walked : walkDocument (debugPen tracing) spacing
      ⟨Sheet.start, Hand.start registry shelf⟩ document with
  | error left =>
      rw [walked] at stopped
      rw [← stopped]
      rfl
  | ok done =>
      rw [walked] at stopped
      rw [← stopped]
      have closed := closed_of_walkDocument free walked
      have listed := places_of_walkDocument walked
      have spelled : segmentsText (withLegend tracing done.hand.seen done.sheet.output) =
          separated (collapse spacing document.layout) ++
            legendText tracing.legendTitle document.places := by
        rw [withLegend, segmentsText_append, segmentsText_legendGap closed,
          output_of_walkDocument walked, segmentsText_legend, listed]
      exact congrArg Except.ok spelled

/-- A renderer draws every document whose references resolve, whatever it did before. -/
theorem DebugRenderer.render_of_resolves
    (renderer : DebugRenderer)
    (registry : Registry)
    (shelf : Shelf)
    {document : Document}
    (resolves : document.Resolves) :
    ∃ segments, (renderer.render registry shelf document).1.segments = .ok segments := by
  obtain ⟨done, walked⟩ := walkDocument_of_resolves (debugPen renderer.tracing) renderer.spacing
    ⟨renderer.desk.sheet.restart, renderer.desk.hand.restart registry shelf⟩ resolves
  unfold DebugRenderer.render
  simp only [walked]
  exact ⟨_, rfl⟩

/-- A document whose references resolve is drawn. -/
theorem debug_of_resolves
    (spacing : Spacing)
    (tracing : Tracing)
    (registry : Registry)
    (shelf : Shelf)
    {document : Document}
    (resolves : document.Resolves) :
    ∃ segments, (debug spacing tracing registry shelf document).segments = .ok segments :=
  DebugRenderer.render_of_resolves { spacing := spacing, tracing := tracing } registry shelf
    resolves

/-- Debug rendering that gives segments walks to the end. -/
theorem walkDocument_of_debug
    {spacing : Spacing}
    {tracing : Tracing}
    {registry : Registry}
    {shelf : Shelf}
    {document : Document}
    {segments : List (Segment Ink)}
    (rendered : (debug spacing tracing registry shelf document).segments = .ok segments) :
    ∃ done,
      walkDocument (debugPen tracing) spacing ⟨Sheet.start, Hand.start registry shelf⟩ document =
        .ok done ∧
      withLegend tracing done.hand.seen done.sheet.output = segments := by
  unfold debug DebugRenderer.render at rendered
  simp only [Sheet.restart_eq_start, Hand.restart_eq_start] at rendered
  cases walked : walkDocument (debugPen tracing) spacing
      ⟨Sheet.start, Hand.start registry shelf⟩ document with
  | error left =>
      rw [walked] at rendered
      cases rendered
  | ok done =>
      rw [walked] at rendered
      exact ⟨done, rfl, Except.ok.inj rendered⟩

/-- The first fault of a document is the fault of drawing it. -/
theorem debug_of_fault
    (spacing : Spacing)
    (tracing : Tracing)
    (registry : Registry)
    (shelf : Shelf)
    {document : Document}
    {fault : Malformed}
    (stops : Node.firstFault? document.nodes = some fault) :
    (debug spacing tracing registry shelf document).segments = .error fault := by
  have stopped := stoppedBy?_walkDocument (debugPen tracing) spacing
    ⟨Sheet.start, Hand.start registry shelf⟩ document
  rw [stops] at stopped
  unfold debug DebugRenderer.render
  simp only [Sheet.restart_eq_start, Hand.restart_eq_start]
  cases walked : walkDocument (debugPen tracing) spacing
      ⟨Sheet.start, Hand.start registry shelf⟩ document with
  | error left =>
      rw [walked] at stopped
      exact congrArg Except.error (Option.some.inj stopped)
  | ok done =>
      rw [walked] at stopped
      cases stopped

/-- A line whose parts come from two places, one of which is met three times. -/
def tracedCall : Document :=
  [.marker ⟨1, "a.py".toList, 3, 1⟩, .fixed "f(".toList,
    .block [.marker ⟨2, "b.py".toList, 8, 5⟩, .owned "x".toList],
    .fixed ", ".toList, .back 2, .fixed ")".toList, .marker ⟨2, "b.py".toList, 8, 5⟩, .newline]

theorem plain_tracedCall : plain .standard tracedCall = .ok "f(x, x)\n".toList :=
  plain_of_layAll (by decide +kernel) (by decide +kernel)

/-- The segments of `tracedCall` spell its text and a legend of two entries. -/
theorem segmentsText_tracedCall :
    tracedCall.FeedFree ∧
      (debug .standard .standard {} {} tracedCall).segments.map segmentsText =
        .ok "f(x, x)\n\nProvenance:\na.py:3:1\nb.py:8:5\n".toList := by
  have free : tracedCall.FeedFree := by decide +kernel
  have noFault : Node.firstFault? tracedCall.nodes = none := by decide +kernel
  have spelled :
      separated (collapse .standard tracedCall.layout) ++
          legendText Tracing.standard.legendTitle tracedCall.places =
        "f(x, x)\n\nProvenance:\na.py:3:1\nb.py:8:5\n".toList := by
    rw [Document.layout_eq]
    decide +kernel
  refine ⟨free, ?_⟩
  rw [segmentsText_debug .standard .standard {} {} free, plain_eq, noFault]
  exact congrArg Except.ok spelled

end Render

end Splice
