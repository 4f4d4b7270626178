import Splice.Proofs.Render.Collapse
import Splice.Proofs.Render.Layout
import Splice.Render.Debug

namespace Splice

/-!
# Styled layout

What a document looks like with its styles before spacing rules touch it.  A style is a
matter of position: `Scheme.styleAt` finds it from the last marker before a position of
the same sequence, or else from the style outside, and no state is carried along.  The
styled layout hands this style to every text, and the document that a block or a
reference stands for is laid out in the style of the place where it stands.

`layout_styled` says that the styled layout spells the plain one.
-/

/-- The styles of places, and the emphasis inside blocks. -/
structure Scheme where
  colours : Token → Style
  boundary : Style

namespace Document

/-- The token of the last marker of a sequence before a position. -/
def lastToken? (document : Document) (index : Nat) : Option Token :=
  ((document.take index).filterMap fun
    | .marker token => some token
    | _ => none).getLast?

variable {document : Document} {index : Nat}

theorem lastToken?_succ_of_marker
    {token : Token}
    (here : document[index]? = some (.marker token)) :
    document.lastToken? (index + 1) = some token := by
  simp [lastToken?, List.take_add_one, here]

theorem lastToken?_succ_of_not_marker
    (notMarker : ∀ token, document[index]? ≠ some (.marker token)) :
    document.lastToken? (index + 1) = document.lastToken? index := by
  unfold lastToken?
  rw [List.take_add_one, List.filterMap_append]
  cases here : document[index]? with
  | none => simp
  | some operation =>
      cases operation with
      | marker token => exact (notMarker token here).elim
      | _ => simp

end Document

namespace Scheme

/-- The style of a place, or another one where there is no place. -/
def styleOf (scheme : Scheme) (outside : Style) : Option Token → Style
  | none => outside
  | some token => scheme.colours token

/--
The style in force at a position of a sequence that lies `depth` blocks deep and stands
where `outside` is in force.
-/
def styleAt
    (scheme : Scheme)
    (outside : Style)
    (depth : Nat)
    (document : Document)
    (index : Nat) :
    Style :=
  let own := scheme.styleOf outside (document.lastToken? index)
  if depth = 0 then own else own.under scheme.boundary

variable {scheme : Scheme} {document : Document} {index : Nat}

theorem styleAt_succ_of_marker
    {token : Token}
    (here : document[index]? = some (.marker token))
    (outside : Style)
    (depth : Nat) :
    scheme.styleAt outside depth document (index + 1) =
      if depth = 0 then scheme.colours token
      else (scheme.colours token).under scheme.boundary := by
  unfold styleAt
  rw [Document.lastToken?_succ_of_marker here]
  rfl

/-- Nothing but a marker changes the style of what follows, and a block least of all. -/
theorem styleAt_succ_of_not_marker
    (notMarker : ∀ token, document[index]? ≠ some (.marker token))
    (outside : Style)
    (depth : Nat) :
    scheme.styleAt outside depth document (index + 1) =
      scheme.styleAt outside depth document index := by
  unfold styleAt
  rw [Document.lastToken?_succ_of_not_marker notMarker]

/-- Inside a block the emphasis decides all that it can decide. -/
theorem styleAt_under_boundary
    (scheme : Scheme)
    (outside : Style)
    {depth : Nat}
    (inside : 0 < depth)
    (document : Document)
    (index : Nat) :
    (scheme.styleAt outside depth document index).under scheme.boundary =
      scheme.styleAt outside depth document index := by
  have nested : depth ≠ 0 := by omega
  simp only [styleAt, nested, ↓reduceIte]
  exact Style.under_under _ _

end Scheme

/-- The text of one operation, with its style and the number of blocks around it. -/
structure Stretch where
  text : Text
  style : Style
  depth : Nat

/-- A line that begins at a column, and the texts on it. -/
structure StyledLine where
  column : Nat
  stretches : List Stretch

namespace StyledLine

def text (line : StyledLine) : Text :=
  List.replicate line.column ' ' ++ line.stretches.flatMap Stretch.text

/-- Unstyled padding, if there is any, and one segment for each text. -/
def segments (line : StyledLine) : List (Render.Segment Style) :=
  Render.paddedLine line.column ++
    line.stretches.map fun stretch => ⟨stretch.text, some stretch.style⟩

end StyledLine

/-- The lines that are closed, and the line under construction behind them. -/
structure StyledPage where
  closed : List StyledLine
  line : StyledLine

namespace StyledPage

def blank : StyledPage :=
  ⟨[], ⟨0, []⟩⟩

def write (page : StyledPage) (stretch : Stretch) : StyledPage :=
  { page with line := { page.line with stretches := page.line.stretches ++ [stretch] } }

def breakLine (page : StyledPage) (column : Nat) : StyledPage :=
  ⟨page.closed ++ [page.line], ⟨column, []⟩⟩

/-- What an operation that splices nothing in does to a page where a style is in force. -/
def put
    (page : StyledPage)
    (base : Nat)
    (style : Style)
    (depth : Nat) :
    Operation → StyledPage
  | .newline => page.breakLine base
  | .fixed text => page.write ⟨text, style, depth⟩
  | .owned text => page.write ⟨text, style, depth⟩
  | _ => page

def lines (page : StyledPage) : List StyledLine :=
  page.closed ++ [page.line]

/-- A page without its styles. -/
def plain (page : StyledPage) : Page :=
  ⟨page.closed.map StyledLine.text, page.line.text⟩

@[simp] theorem plain_write
    (page : StyledPage)
    (stretch : Stretch) :
    (page.write stretch).plain = page.plain.write stretch.text := by
  simp [write, plain, Page.write, StyledLine.text]

@[simp] theorem plain_breakLine
    (page : StyledPage)
    (column : Nat) :
    (page.breakLine column).plain = page.plain.breakLine column := by
  simp [breakLine, plain, Page.breakLine, StyledLine.text]

theorem plain_put
    (page : StyledPage)
    (base : Nat)
    (style : Style)
    (depth : Nat)
    (operation : Operation) :
    (page.put base style depth operation).plain = page.plain.put base operation := by
  cases operation with
  | newline => exact page.plain_breakLine base
  | fixed text => exact page.plain_write ⟨text, style, depth⟩
  | owned text => exact page.plain_write ⟨text, style, depth⟩
  | _ => rfl

end StyledPage

namespace Scheme

/--
Lay out a document from a position on, where its new lines begin at `base` and it stands
`depth` blocks deep in the style `outside`.
-/
def layFrom
    (scheme : Scheme)
    (outside : Style)
    (depth : Nat)
    (document : Document)
    (base : Nat)
    (page : StyledPage)
    (index : Nat) :
    StyledPage :=
  if inside : index < document.length then
    match spliced : document.spliced? index document[index] with
    | some inner =>
        scheme.layFrom outside depth document base
          (scheme.layFrom (scheme.styleAt outside depth document index) (depth + 1) inner
            page.line.text.length page 0)
          (index + 1)
    | none =>
        scheme.layFrom outside depth document base
          (page.put base (scheme.styleAt outside depth document index) depth document[index])
          (index + 1)
  else page
termination_by (sizeOf document, document.length - index)
decreasing_by
  · exact .left _ _ (Document.sizeOf_lt_of_block
      (Document.block_mem_of_spliced (List.getElem_mem inside) spliced))
  · exact .right _ (Nat.sub_lt_sub_left inside (Nat.lt_succ_self index))
  · exact .right _ (Nat.sub_lt_sub_left inside (Nat.lt_succ_self index))

theorem layFrom_unfold
    (scheme : Scheme)
    (outside : Style)
    (depth : Nat)
    (document : Document)
    (base : Nat)
    (page : StyledPage)
    (index : Nat) :
    scheme.layFrom outside depth document base page index =
      match document[index]? with
      | none => page
      | some operation =>
          let style := scheme.styleAt outside depth document index
          match document.spliced? index operation with
          | none =>
              scheme.layFrom outside depth document base
                (page.put base style depth operation) (index + 1)
          | some inner =>
              scheme.layFrom outside depth document base
                (scheme.layFrom style (depth + 1) inner page.line.text.length page 0)
                (index + 1) := by
  rw [layFrom]
  by_cases inside : index < document.length
  · rw [List.getElem?_eq_getElem inside]
    simp only [inside, ↓reduceDIte]
    split
    · next inner spliced => rw [spliced]
    · next notSpliced => rw [notSpliced]
  · rw [List.getElem?_eq_none (by omega)]
    simp only [inside, ↓reduceDIte]

/-- The lines of a document with their styles. -/
def layout (scheme : Scheme) (document : Document) : List StyledLine :=
  (scheme.layFrom Style.null 0 document 0 .blank 0).lines

theorem plain_layFrom
    (scheme : Scheme)
    (outside : Style)
    (depth : Nat)
    (document : Document)
    (base : Nat)
    (page : StyledPage)
    (index : Nat) :
    (scheme.layFrom outside depth document base page index).plain =
      document.layFrom base page.plain index := by
  fun_induction layFrom scheme outside depth document base page index with
  | case1 outside depth document base page index inside inner spliced innerLaid restLaid =>
      rw [restLaid, innerLaid]
      conv => rhs; rw [Document.layFrom]
      simp only [inside, ↓reduceDIte]
      split
      · next other found =>
          cases spliced.symm.trans found
          rfl
      · next notSpliced => cases spliced.symm.trans notSpliced
  | case2 outside depth document base page index inside notSpliced restLaid =>
      rw [restLaid, StyledPage.plain_put]
      conv => rhs; rw [Document.layFrom]
      simp only [inside, ↓reduceDIte]
      split
      · next inner spliced => cases notSpliced.symm.trans spliced
      · rfl
  | case3 outside depth document base page index outsideRow =>
      rw [Document.layFrom]
      simp only [outsideRow, ↓reduceDIte]

/-- The styled layout of a document spells its plain layout. -/
theorem layout_styled
    (scheme : Scheme)
    (document : Document) :
    (scheme.layout document).map StyledLine.text = document.layout := by
  have same := scheme.plain_layFrom Style.null 0 document 0 .blank 0
  have blank : StyledPage.blank.plain = Page.blank := rfl
  rw [blank] at same
  unfold layout Document.layout
  rw [← same]
  simp [StyledPage.lines, Page.lines, StyledPage.plain]

end Scheme

/-- Every text of a page has a property. -/
def StyledPage.Holds (P : Stretch → Prop) (page : StyledPage) : Prop :=
  ∀ line ∈ page.lines, ∀ stretch ∈ line.stretches, P stretch

namespace StyledPage.Holds

variable {P : Stretch → Prop} {page : StyledPage}

theorem of_blank : blank.Holds P := by
  intro line member stretch onLine
  rw [List.mem_singleton.mp member] at onLine
  cases onLine

theorem write
    (holds : page.Holds P)
    {stretch : Stretch}
    (new : P stretch) :
    (page.write stretch).Holds P := by
  intro line member other onLine
  rcases List.mem_append.mp member with closed | last
  · exact holds line (List.mem_append_left _ closed) other onLine
  · rw [List.mem_singleton.mp last] at onLine
    rcases List.mem_append.mp onLine with earlier | written
    · exact holds page.line (List.mem_append_right _ (List.mem_singleton_self _)) other earlier
    · rw [List.mem_singleton.mp written]
      exact new

theorem breakLine
    (holds : page.Holds P)
    (column : Nat) :
    (page.breakLine column).Holds P := by
  intro line member stretch onLine
  rcases List.mem_append.mp member with closed | last
  · exact holds line closed stretch onLine
  · rw [List.mem_singleton.mp last] at onLine
    cases onLine

theorem put
    (holds : page.Holds P)
    (base : Nat)
    {style : Style}
    {depth : Nat}
    {operation : Operation}
    (puts : ∀ text, operation.text? = some text → P ⟨text, style, depth⟩) :
    (page.put base style depth operation).Holds P := by
  cases operation with
  | newline => exact holds.breakLine base
  | fixed text | owned text => exact holds.write (puts text rfl)
  | _ => exact holds

end StyledPage.Holds

/-- Every text that one sequence puts on a page has a property, wherever the sequence stands. -/
def Scheme.Puts (scheme : Scheme) (P : Stretch → Prop) (document : Document) : Prop :=
  ∀ outside depth {index operation text},
    document[index]? = some operation →
    operation.text? = some text →
    P ⟨text, scheme.styleAt outside depth document index, depth⟩

theorem Scheme.holds_layFrom
    {P : Stretch → Prop}
    (scheme : Scheme)
    (outside : Style)
    (depth : Nat)
    {document : Document}
    (puts : document.EveryLevel (scheme.Puts P))
    (base : Nat)
    {page : StyledPage}
    (holds : page.Holds P)
    (index : Nat) :
    (scheme.layFrom outside depth document base page index).Holds P := by
  fun_induction layFrom scheme outside depth document base page index with
  | case1 outside depth document base page index inside inner spliced innerLaid restLaid =>
      have member := Document.block_mem_of_spliced (List.getElem_mem inside) spliced
      exact restLaid puts (innerLaid (puts.nested member) holds)
  | case2 outside depth document base page index inside notSpliced restLaid =>
      apply restLaid puts
      apply holds.put base
      intro text writes
      exact puts.here outside depth (List.getElem?_eq_getElem inside) writes
  | case3 => exact holds

/-- What every text has where it is put, every text of the layout has. -/
theorem Scheme.holds_of_mem_layout
    {P : Stretch → Prop}
    {scheme : Scheme}
    {document : Document}
    (puts : document.EveryLevel (scheme.Puts P))
    {line : StyledLine}
    (member : line ∈ scheme.layout document)
    {stretch : Stretch}
    (onLine : stretch ∈ line.stretches) :
    P stretch :=
  scheme.holds_layFrom Style.null 0 puts 0 .of_blank 0 line member stretch onLine

/-- Every text at depth one or more shows the emphasis of its scheme. -/
theorem Scheme.under_boundary_of_mem_layout
    {scheme : Scheme}
    {document : Document}
    {line : StyledLine}
    (member : line ∈ scheme.layout document)
    {stretch : Stretch}
    (onLine : stretch ∈ line.stretches)
    (nested : 0 < stretch.depth) :
    stretch.style.under scheme.boundary = stretch.style := by
  have puts :
      document.EveryLevel (scheme.Puts fun stretch =>
        0 < stretch.depth → stretch.style.under scheme.boundary = stretch.style) :=
    .of_forall (fun inner outside _ index _ _ _ _ inside =>
      scheme.styleAt_under_boundary outside inside inner index) document
  exact holds_of_mem_layout puts member onLine nested

/-- What the null style has and every position keeps, every style of the layout has. -/
theorem Scheme.style_of_mem_layout
    {P : Style → Prop}
    {scheme : Scheme}
    (null : P Style.null)
    (keeps : ∀ {outside} depth document index,
      P outside → P (scheme.styleAt outside depth document index))
    {document : Document}
    {line : StyledLine}
    (member : line ∈ scheme.layout document)
    {stretch : Stretch}
    (onLine : stretch ∈ line.stretches) :
    P stretch.style := by
  have laid (outside : Style) (depth : Nat) (document : Document) (base : Nat)
      (page : StyledPage) (index : Nat) (outsideHas : P outside)
      (holds : page.Holds fun stretch => P stretch.style) :
      (scheme.layFrom outside depth document base page index).Holds fun stretch =>
        P stretch.style := by
    fun_induction Scheme.layFrom scheme outside depth document base page index with
    | case1 outside depth document base page index inside inner spliced innerLaid restLaid =>
        exact restLaid outsideHas (innerLaid (keeps depth document index outsideHas) holds)
    | case2 outside depth document base page index inside notSpliced restLaid =>
        exact restLaid outsideHas
          (holds.put base fun _ _ => keeps depth document index outsideHas)
    | case3 => exact holds
  exact laid Style.null 0 document 0 .blank 0 null .of_blank line member stretch onLine

/-- Where no place is a link, a style of the layout links to where the emphasis does, if at all. -/
theorem Scheme.link_of_mem_layout
    {scheme : Scheme}
    (noLink : ∀ token, (scheme.colours token).link = none)
    {document : Document}
    {line : StyledLine}
    (member : line ∈ scheme.layout document)
    {stretch : Stretch}
    (onLine : stretch ∈ line.stretches)
    {address : Text}
    (linked : stretch.style.link = some address) :
    scheme.boundary.link = some address := by
  refine Scheme.style_of_mem_layout
    (P := fun style => ∀ address, style.link = some address →
      scheme.boundary.link = some address) ?_ ?_ member onLine address linked
  · intro address none
    cases none
  · intro outside depth document index outsideLinks address
    have own : ∀ address,
        (scheme.styleOf outside (document.lastToken? index)).link = some address →
          scheme.boundary.link = some address := by
      cases document.lastToken? index with
      | none => exact outsideLinks
      | some token => simp [Scheme.styleOf, noLink]
    unfold Scheme.styleAt
    split
    · exact own address
    · cases emphasis : scheme.boundary.link with
      | none => simpa [Style.under, emphasis] using own address
      | some other => simp [Style.under, emphasis]

namespace Render

/-- How many line breaks stand between two styled lines that are kept, with their places. -/
def gapStyled (spacing : Spacing) (upper lower : StyledLine × Nat) : Nat :=
  gap spacing (upper.1.text, upper.2) (lower.1.text, lower.2)

/-- Styled lines that are kept, each behind its line breaks if there are any. -/
def stackedStyled (spacing : Spacing) : List (StyledLine × Nat) → List (Segment Style) :=
  pile (fun upper lower => breaks (gapStyled spacing upper lower)) fun line => line.1.segments

/-- A row of styled lines under spacing rules. -/
def collapseStyled (spacing : Spacing) (lines : List StyledLine) : List (Segment Style) :=
  stackedStyled spacing (keptBy StyledLine.text lines) ++
    breaks (lastBreak spacing lines.length (kept (lines.map StyledLine.text))).length

theorem kept_text
    (lines : List StyledLine) :
    kept (lines.map StyledLine.text) =
      (keptBy StyledLine.text lines).map fun line => (line.1.text, line.2) := by
  unfold kept keptBy
  rw [List.zipIdx_map, List.filter_map]
  rfl

end Render

end Splice
