import Splice.Document.Conversion
import Splice.Proofs.Render.Layout
import Splice.Proofs.Text.Lines

namespace Splice

/-!
# The lines of a layout

A text that became a document is laid out as its dedented lines.  And as long as no text
of a document holds a line feed, no line of its layout holds one.
-/

/-- No line of a page holds a line feed. -/
def Page.FeedFree (page : Page) : Prop :=
  ∀ line ∈ page.lines, '\n' ∉ line

namespace Page.FeedFree

variable {page : Page}

theorem of_blank : blank.FeedFree := by
  intro line member
  rw [List.mem_singleton.mp member]
  simp [blank]

theorem write
    (free : page.FeedFree)
    {text : Text}
    (textFree : '\n' ∉ text) :
    (page.write text).FeedFree := by
  intro line member
  rcases List.mem_append.mp member with closed | last
  · exact free line (List.mem_append_left _ closed)
  · have pageLine := free page.line (List.mem_append_right _ (List.mem_singleton_self _))
    rw [List.mem_singleton.mp last]
    simp [Page.write, pageLine, textFree]

theorem breakLine
    (free : page.FeedFree)
    (column : Nat) :
    (page.breakLine column).FeedFree := by
  intro line member
  rcases List.mem_append.mp member with closed | last
  · exact free line closed
  · rw [List.mem_singleton.mp last]
    simp [Page.breakLine, List.mem_replicate]

end Page.FeedFree

mutual

theorem Page.FeedFree.lay
    {base : Nat} {page : Page} (free : page.FeedFree) :
    ∀ {node : Node}, node.isFeedFree = true → (node.lay base page).FeedFree
  | .newline, _ => free.breakLine base
  | .fixed text, textFree | .owned text, textFree =>
      free.write (by simpa [Node.isFeedFree] using textFree)
  | .block _, inner | .again _, inner => Page.FeedFree.layAll free inner
  | .marker _, _ | .broken _, _ => free

theorem Page.FeedFree.layAll
    {base : Nat} {page : Page} (free : page.FeedFree) :
    ∀ {nodes : List Node},
      Node.areFeedFree nodes = true → (Node.layAll base page nodes).FeedFree
  | [], _ => free
  | node :: rest, eachFree => by
      have parts : node.isFeedFree = true ∧ Node.areFeedFree rest = true := by
        simpa [Node.areFeedFree] using eachFree
      exact Page.FeedFree.layAll (Page.FeedFree.lay free parts.1) parts.2

end

namespace Document

theorem not_feed_of_mem_layout
    {document : Document}
    (free : document.FeedFree)
    {line : Text}
    (member : line ∈ document.layout) :
    '\n' ∉ line := by
  rw [layout_eq] at member
  exact Page.FeedFree.layAll .of_blank (feedFree_iff.mp free) line member

/-- Operations that splice nothing in are laid out one after another. -/
theorem layAll_nodesAfter
    {operations : List Operation}
    (notBlock : ∀ inner, Operation.block inner ∉ operations)
    (notBack : ∀ offset, Operation.back offset ∉ operations)
    (earlier : List Node)
    (base : Nat)
    (page : Page) :
    Node.layAll base page (nodesAfter earlier operations) =
      operations.foldl (fun page operation => page.put base operation) page := by
  induction operations generalizing earlier page with
  | nil => rfl
  | cons operation rest inductionHypothesis =>
      have restLaid := inductionHypothesis
        (fun inner member => notBlock inner (List.mem_cons_of_mem _ member))
        (fun offset member => notBack offset (List.mem_cons_of_mem _ member))
      rw [nodesAfter, Node.layAll, restLaid, List.foldl_cons]
      cases operation with
      | block inner => exact (notBlock inner List.mem_cons_self).elim
      | back offset => exact (notBack offset List.mem_cons_self).elim
      | _ => rfl

end Document

namespace Template

/-- What a piece becomes in a text in which a dollar sign means nothing special. -/
def literalOperation (literal : Text → Operation) : Piece → Operation
  | .newline => .newline
  | .part cut => literal cut.source

theorem assembleLiterals_eq_map
    (literal : Text → Operation)
    (text : Text) :
    assembleLiterals literal text = (pieces false text).map (literalOperation literal) := by
  unfold assembleLiterals literalOperation
  rfl

/--
What writes the parts of a template and breaks the line between two lines writes the
dedented lines, each as its parts are written.
-/
theorem lines_foldl_pieces
    {put : Page → Piece → Page}
    (written : Part → Text)
    (breaks : ∀ page, put page .newline = page.breakLine 0)
    (writes : ∀ page cut, put page (.part cut) = page.write (written cut))
    (scan : Bool)
    (template : Text) :
    ((pieces scan template).foldl put .blank).lines =
      (dedent template).map fun line => (lineParts scan line).flatMap written := by
  have writeParts (parts : List Part) (page : Page) :
      (parts.map Piece.part).foldl put page = page.write (parts.flatMap written) := by
    induction parts generalizing page with
    | nil => simp [Page.write]
    | cons cut rest inductionHypothesis =>
        rw [List.map_cons, List.foldl_cons, writes, inductionHypothesis]
        simp [Page.write]
  have writeLines (lines : List Text) (page : Page) :
      ((brokenPieces scan lines).foldl put page).lines =
        page.lines ++ lines.map fun line => (lineParts scan line).flatMap written := by
    induction lines generalizing page with
    | nil => simp [brokenPieces]
    | cons line rest inductionHypothesis =>
        have shape : brokenPieces scan (line :: rest) =
            .newline :: (lineParts scan line).map .part ++ brokenPieces scan rest := rfl
        rw [shape, List.cons_append, List.foldl_cons, List.foldl_append, breaks, writeParts,
          inductionHypothesis]
        simp [Page.breakLine, Page.write, Page.lines]
  unfold pieces
  cases shape : dedent template with
  | nil =>
      have length := length_dedent template
      rw [shape] at length
      exact (Text.splitWhere_ne_nil _ template (List.length_eq_zero_iff.mp length.symm)).elim
  | cons first rest =>
      simp only [List.foldl_append]
      rw [writeParts, writeLines]
      simp [Page.lines, Page.write, Page.blank]

end Template

/-- A text that became a document is laid out as its dedented lines. -/
theorem Document.layout_ofText
    (text : Text) :
    (Document.ofText text).layout = Template.dedent text := by
  rw [layout_eq, ofText, Template.assembleLiterals_eq_map, nodes, layAll_nodesAfter,
    List.foldl_map,
    Template.lines_foldl_pieces Template.Part.source (fun _ => rfl) (fun _ _ => rfl)]
  · have whole (line : Text) :
        (Template.lineParts false line).flatMap Template.Part.source = line := by
      cases line <;> simp [Template.lineParts, Template.Part.literalBefore, Template.Part.source]
    simp only [whole, List.map_id']
  · intro inner member
    rcases List.mem_map.mp member with ⟨piece, _, same⟩
    cases piece <;> cases same
  · intro offset member
    rcases List.mem_map.mp member with ⟨piece, _, same⟩
    cases piece <;> cases same

end Splice
