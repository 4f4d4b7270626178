import Splice.Proofs.Render.Collapse
import Splice.Proofs.Render.Layout
import Splice.Render.Plain

namespace Splice.Render

/-!
# One pass over a document

A walk with any pen does two things at once that can be said one after the other:
it lays the document out, and it collapses the blank lines of the layout.  The
sheet follows the page: they agree on the line under construction, and the sheet
has settled the lines that the page has closed.  A walk is stopped by the first
fault of its nodes and by nothing else.
-/

variable {σ μ : Type}

/-- The fault that stopped a walk. -/
def stoppedBy? : Except (Stopped σ μ) (Desk σ μ) → Option Malformed
  | .ok _ => none
  | .error (fault, _) => some fault

theorem eq_ok_of_not_stopped
    {result : Except (Stopped σ μ) (Desk σ μ)}
    (notStopped : stoppedBy? result = none) :
    ∃ done, result = .ok done := by
  cases result with
  | ok done => exact ⟨done, rfl⟩
  | error stopped => cases notStopped

/--
A sheet and a page agree on the line under construction, and the sheet has settled
the closed lines.
-/
structure Follows
    (spacing : Spacing)
    (page : Page)
    (sheet : Sheet μ) : Prop where
  line : sheet.lineText = page.line
  column : sheet.column = page.line.length
  settled : Settled spacing page.closed page.closed.length sheet

namespace Follows

variable {spacing : Spacing} {page : Page} {sheet : Sheet μ}

theorem write
    (follows : Follows spacing page sheet)
    (text : Text)
    (ink : μ) :
    Follows spacing (page.write text) (sheet.write text ink) where
  line := by
    have agree := follows.line
    unfold Sheet.lineText at agree ⊢
    simp only [Sheet.write, Page.write, segmentsText_append, agree]
    simp [segmentsText]
  column := by
    simp [Sheet.write, Page.write, follows.column]
  settled := ⟨follows.settled.output, follows.settled.start, follows.settled.after⟩

variable [Hooks μ]

theorem of_start : Follows spacing Page.blank (Sheet.start : Sheet μ) where
  line := Sheet.lineText_start
  column := rfl
  settled := .of_start

theorem breakLine
    (follows : Follows spacing page sheet)
    (base : Nat) :
    Follows spacing (page.breakLine base) (sheet.breakLine spacing base) where
  line := by
    have padded := Sheet.lineText_flush spacing base sheet
    unfold Sheet.breakLine Page.breakLine
    simp only
    split <;> exact padded
  column := by
    unfold Sheet.breakLine Page.breakLine
    simp only [List.length_replicate]
    split <;> rfl
  settled := by
    have counted := follows.settled.breakLine base
    rw [follows.line] at counted
    exact counted

end Follows

variable [Hooks μ]

section

variable
  {pen : Pen σ μ} {spacing : Spacing} {base : Nat} {desk done : Desk σ μ}
  {nodes : List Node}

/-- A walk of a block comes to its end when the walk of its nodes does. -/
theorem walk_block_eq_ok_iff (base : Nat) :
    walk pen spacing base desk (.block nodes) = .ok done ↔
      ∃ inside,
        walkAll pen spacing desk.sheet.column { desk with hand := pen.enter desk.hand } nodes =
          .ok inside ∧
        { inside with hand := pen.leave desk.hand inside.hand } = done := by
  simp only [walk, bind, Except.bind]
  cases walkAll pen spacing desk.sheet.column { desk with hand := pen.enter desk.hand } nodes with
  | error stopped => simp
  | ok inside => simp [pure, Except.pure]

/-- A walk over nodes goes on from where the walk over the first ends. -/
theorem walkAll_cons_eq_ok_iff
    {node : Node} :
    walkAll pen spacing base desk (node :: nodes) = .ok done ↔
      ∃ next,
        walk pen spacing base desk node = .ok next ∧
        walkAll pen spacing base next nodes = .ok done := by
  simp only [walkAll, bind, Except.bind]
  cases walk pen spacing base desk node with
  | error stopped => simp
  | ok next => simp

/-- A walk over a document is a walk over its nodes and a last finish. -/
theorem walkDocument_eq_ok_iff
    {document : Document} :
    walkDocument pen spacing desk document = .ok done ↔
      ∃ walked,
        walkAll pen spacing 0 desk document.nodes = .ok walked ∧
        { walked with sheet := walked.sheet.finish spacing } = done := by
  simp only [walkDocument, bind, Except.bind]
  cases walkAll pen spacing 0 desk document.nodes with
  | error stopped => simp
  | ok walked => simp [pure, Except.pure]

end

mutual

/-- A walk of a node is stopped by the fault of the node. -/
theorem stoppedBy?_walk
    (pen : Pen σ μ) (spacing : Spacing) (base : Nat) (desk : Desk σ μ) :
    ∀ node : Node, stoppedBy? (walk pen spacing base desk node) = node.fault?
  | .newline | .fixed _ | .owned _ | .marker _ | .broken _ => rfl
  | .block nodes | .again nodes => by
      have inside := stoppedBy?_walkAll pen spacing desk.sheet.column
        { desk with hand := pen.enter desk.hand } nodes
      simp only [walk, Node.fault?, bind, Except.bind]
      rw [← inside]
      cases walkAll pen spacing desk.sheet.column
          { desk with hand := pen.enter desk.hand } nodes with
      | error stopped => rfl
      | ok inside => rfl

/-- A walk over nodes stops at the first fault among them, and only there. -/
theorem stoppedBy?_walkAll
    (pen : Pen σ μ) (spacing : Spacing) (base : Nat) (desk : Desk σ μ) :
    ∀ nodes : List Node,
      stoppedBy? (walkAll pen spacing base desk nodes) = Node.firstFault? nodes
  | [] => rfl
  | node :: rest => by
      have first := stoppedBy?_walk pen spacing base desk node
      simp only [walkAll, Node.firstFault?, bind, Except.bind]
      rw [← first]
      cases walk pen spacing base desk node with
      | error stopped => rfl
      | ok next => exact stoppedBy?_walkAll pen spacing base next rest

end

mutual

/-- A walk of a node lays it out. -/
theorem Follows.walk
    {pen : Pen σ μ} {spacing : Spacing} {base : Nat} {page : Page} {desk done : Desk σ μ}
    (follows : Follows spacing page desk.sheet) :
    ∀ {node : Node},
      walk pen spacing base desk node = .ok done →
      Follows spacing (node.lay base page) done.sheet
  | .newline, walked => by
      cases walked
      exact follows.breakLine base
  | .fixed text, walked | .owned text, walked => by
      cases walked
      exact follows.write text _
  | .marker _, walked => by
      cases walked
      exact follows
  | .broken _, walked => by
      cases walked
  | .block nodes, walked | .again nodes, walked => by
      obtain ⟨inside, walkedInside, rfl⟩ := (walk_block_eq_ok_iff base).mp walked
      have entered :
          Follows spacing page ({ desk with hand := pen.enter desk.hand } : Desk σ μ).sheet :=
        follows
      have laid := Follows.walkAll entered walkedInside
      rw [follows.column] at laid
      exact laid

theorem Follows.walkAll
    {pen : Pen σ μ} {spacing : Spacing} {base : Nat} {page : Page} {desk done : Desk σ μ}
    (follows : Follows spacing page desk.sheet) :
    ∀ {nodes : List Node},
      walkAll pen spacing base desk nodes = .ok done →
      Follows spacing (Node.layAll base page nodes) done.sheet
  | [], walked => by
      cases walked
      exact follows
  | node :: rest, walked => by
      obtain ⟨next, walkedFirst, walkedRest⟩ := walkAll_cons_eq_ok_iff.mp walked
      exact Follows.walkAll (Follows.walk follows walkedFirst) walkedRest

end

/-- A walk over a document stops at the first fault of its nodes, and only there. -/
theorem stoppedBy?_walkDocument
    (pen : Pen σ μ)
    (spacing : Spacing)
    (desk : Desk σ μ)
    (document : Document) :
    stoppedBy? (walkDocument pen spacing desk document) =
      Node.firstFault? document.nodes := by
  rw [← stoppedBy?_walkAll pen spacing 0 desk document.nodes]
  simp only [walkDocument, bind, Except.bind]
  cases walkAll pen spacing 0 desk document.nodes with
  | error stopped => rfl
  | ok walked => rfl

/-- Nothing stops a walk of a document whose references all stand for blocks. -/
theorem walkDocument_of_resolves
    (pen : Pen σ μ)
    (spacing : Spacing)
    (desk : Desk σ μ)
    {document : Document}
    (resolves : document.Resolves) :
    ∃ done, walkDocument pen spacing desk document = .ok done := by
  apply eq_ok_of_not_stopped
  rw [stoppedBy?_walkDocument]
  exact Document.resolves_iff.mp resolves

/-- What a walk of a document writes is its layout under the spacing rules. -/
theorem output_of_walkDocument
    {pen : Pen σ μ}
    {spacing : Spacing}
    {hand : σ}
    {document : Document}
    {done : Desk σ μ}
    (walked : walkDocument pen spacing ⟨Sheet.start, hand⟩ document = .ok done) :
    segmentsText done.sheet.output = collapse spacing document.layout := by
  obtain ⟨last, walkedAll, rfl⟩ := walkDocument_eq_ok_iff.mp walked
  have start : Follows spacing Page.blank (⟨Sheet.start, hand⟩ : Desk σ μ).sheet := .of_start
  have follows := Follows.walkAll start walkedAll
  rw [follows.settled.finish, follows.line, Document.layout_eq]
  rfl

/--
Plain rendering gives the layout of a document under the spacing rules, or its first
fault.
-/
theorem plain_eq
    (spacing : Spacing)
    (document : Document) :
    plain spacing document =
      match Node.firstFault? document.nodes with
      | none => .ok (collapse spacing document.layout)
      | some fault => .error fault := by
  have stopped := stoppedBy?_walkDocument plainPen spacing ⟨Sheet.start, ()⟩ document
  unfold plain PlainRenderer.render
  simp only [Sheet.restart_eq_start]
  cases walked : walkDocument plainPen spacing ⟨Sheet.start, ()⟩ document with
  | error left =>
      rw [walked] at stopped
      rw [← stopped]
      rfl
  | ok done =>
      rw [walked] at stopped
      rw [← stopped]
      exact congrArg Except.ok (output_of_walkDocument walked)

/-- A document whose references resolve is rendered to what its layout collapses to. -/
theorem plain_of_layout
    (spacing : Spacing)
    {document : Document}
    {text : Text}
    (resolves : document.Resolves)
    (spelled : collapse spacing document.layout = text) :
    plain spacing document = .ok text := by
  rw [plain_eq, Document.resolves_iff.mp resolves, spelled]

/-- The text of a document can be had from the lines that its nodes lay out. -/
theorem plain_of_layAll
    {spacing : Spacing}
    {document : Document}
    {text : Text}
    (resolves : document.Resolves)
    (spelled : collapse spacing (Node.layAll 0 .blank document.nodes).lines = text) :
    plain spacing document = .ok text :=
  plain_of_layout spacing resolves (by rw [Document.layout_eq, spelled])

/--
Plain rendering takes one pass, yet its text is that of the whole layout with blank
lines collapsed, for every document whose references all stand for blocks.
-/
theorem plain_eq_collapse_layout
    (spacing : Spacing)
    {document : Document}
    (resolves : document.Resolves) :
    plain spacing document = .ok (collapse spacing document.layout) :=
  plain_of_layout spacing resolves rfl

/-- A document that is rendered has only references that resolve. -/
theorem resolves_of_plain
    {spacing : Spacing}
    {document : Document}
    {text : Text}
    (renders : plain spacing document = .ok text) :
    document.Resolves := by
  rw [plain_eq] at renders
  apply Document.resolves_iff.mpr
  cases fault : Node.firstFault? document.nodes with
  | none => rfl
  | some malformed =>
      rw [fault] at renders
      cases renders

/--
A plain renderer is not stopped by a document whose references all stand for blocks.
-/
theorem PlainRenderer.render_of_resolves
    (renderer : PlainRenderer)
    {document : Document}
    (resolves : document.Resolves) :
    ∃ text, (renderer.render document).1 = .ok text := by
  obtain ⟨done, walked⟩ := walkDocument_of_resolves plainPen renderer.spacing
    { renderer.desk with sheet := renderer.desk.sheet.restart } resolves
  unfold PlainRenderer.render
  simp only [walked]
  exact ⟨_, rfl⟩

/--
A call whose argument spans several lines and is used twice, each time at its own
column.
-/
def callTwice : Document :=
  [.fixed "f(".toList,
    .block [.owned "a [".toList, .newline, .newline, .newline, .fixed "b".toList, .newline,
      .newline, .fixed "]".toList],
    .fixed ") + ".toList, .back 2, .newline, .fixed "  ".toList, .newline, .newline, .newline,
    .fixed "end".toList, .newline]

/-- The layout of `callTwice` collapses to the text that rendering it gives. -/
theorem plain_callTwice :
    callTwice.Resolves ∧
      plain .standard callTwice = .ok (collapse .standard callTwice.layout) ∧
      collapse .standard callTwice.layout =
        "f(a [\n  b\n  ]) + a [\n       b\n       ]\n\nend\n".toList := by
  have resolves : callTwice.Resolves := by decide +kernel
  refine ⟨resolves, plain_eq_collapse_layout .standard resolves, ?_⟩
  rw [Document.layout_eq]
  decide +kernel

end Splice.Render
