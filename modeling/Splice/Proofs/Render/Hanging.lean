import Splice.Proofs.Render.Rereading

namespace Splice

/-!
# Content that hangs under its insertion point

A document that is spliced in behind a text begins where the text ends, and all of its
other lines are moved to the right by the length of the text.  This holds of the layout
line by line (`Node.layAll_hang` relates the two runs), at every depth and also for blocks
that are used once more.  Spacing rules do not see the difference, apart from the padding
of blank lines, which they drop.
-/

/-- A line behind some spaces. -/
def Text.padded (width : Nat) (line : Text) : Text :=
  List.replicate width ' ' ++ line

/-- A line behind some spaces, if it is not blank. -/
def Text.paddedSolid (width : Nat) (line : Text) : Text :=
  if allBlank line then line else padded width line

/-- Lines that hang from the end of a text: the first one follows it, all others are moved. -/
def hungLines (front : Text) : List Text → List Text
  | [] => []
  | first :: rest => (front ++ first) :: rest.map (Text.padded front.length)

theorem hungLines_nil (lines : List Text) : hungLines [] lines = lines := by
  cases lines with
  | nil => rfl
  | cons first rest => exact congrArg (first :: ·) (List.map_id' rest)

namespace Text

theorem allBlank_spaces (width : Nat) : allBlank (List.replicate width ' ') = true := by
  have blank : isBlank ' ' = true := by decide
  simp [allBlank, List.all_replicate, blank]

/-- Padding makes no line solid. -/
theorem allBlank_padded
    (width : Nat)
    (line : Text) :
    allBlank (padded width line) = allBlank line := by
  have blank := allBlank_spaces width
  unfold allBlank padded at *
  rw [List.all_append, blank, Bool.true_and]

/-- A line with content is padded, whichever padding is meant. -/
theorem paddedSolid_of_solid
    (width : Nat)
    {line : Text}
    (solid : allBlank line = false) :
    paddedSolid width line = padded width line := by
  simp [paddedSolid, solid]

@[simp] theorem paddedSolid_nil (width : Nat) : paddedSolid width [] = [] :=
  rfl

theorem padded_zero (line : Text) : padded 0 line = line :=
  rfl

theorem paddedSolid_zero (line : Text) : paddedSolid 0 line = line := by
  simp [paddedSolid, padded_zero]

/-- Padding brings no line feed. -/
theorem not_feed_padded
    (width : Nat)
    {line : Text}
    (free : '\n' ∉ line) :
    '\n' ∉ padded width line := by
  simp [padded, List.mem_replicate, free]

end Text

namespace Page

/-- A page whose lines hang from the end of a text. -/
def hang (front : Text) (page : Page) : Page where
  closed := hungLines front page.closed
  line := (if page.closed.isEmpty then front else List.replicate front.length ' ') ++ page.line

variable (front : Text) (page : Page)

theorem length_line_hang : (page.hang front).line.length = front.length + page.line.length := by
  unfold hang
  split <;> simp

/-- The lines of a hanging page are the hanging lines of the page. -/
theorem lines_hang : (page.hang front).lines = hungLines front page.lines := by
  unfold lines hang
  cases page.closed with
  | nil => simp [hungLines]
  | cons first rest => simp [hungLines, Text.padded]

/-- Writing on a hanging page is hanging the page that was written on. -/
theorem write_hang
    (text : Text) :
    (page.hang front).write text = (page.write text).hang front := by
  simp [hang, write]

/-- Breaking the line of a hanging page is hanging the page whose line was broken. -/
theorem breakLine_hang
    (column : Nat) :
    (page.hang front).breakLine (front.length + column) =
      (page.breakLine column).hang front := by
  have closed : (page.hang front).closed ++ [(page.hang front).line] =
      hungLines front (page.closed ++ [page.line]) :=
    lines_hang front page
  rw [breakLine, closed, breakLine, hang]
  simp

end Page

mutual

/-- Laying out a node on a page that hangs gives the page that would have been, hung. -/
theorem Node.lay_hang
    (front : Text) (base : Nat) (page : Page) :
    ∀ node : Node,
      node.lay (front.length + base) (page.hang front) = (node.lay base page).hang front
  | .newline => page.breakLine_hang front base
  | .fixed text | .owned text => page.write_hang front text
  | .marker _ | .broken _ => rfl
  | .block nodes | .again nodes => by
      have inside := Node.layAll_hang front page.line.length page nodes
      rw [← page.length_line_hang front] at inside
      exact inside

/-- Nodes are laid out on a hanging page as on the page itself, further to the right. -/
theorem Node.layAll_hang
    (front : Text) (base : Nat) (page : Page) :
    ∀ nodes : List Node,
      Node.layAll (front.length + base) (page.hang front) nodes =
        (Node.layAll base page nodes).hang front
  | [] => rfl
  | node :: rest => by
      rw [Node.layAll, Node.lay_hang front base page node,
        Node.layAll_hang front base (node.lay base page) rest, Node.layAll]

end

namespace Document

/-- A block behind a text hangs from its end. -/
theorem layout_behind
    (front : Text)
    (document : Document) :
    Document.layout [.fixed front, .block document] = hungLines front document.layout := by
  have hung := Node.layAll_hang front 0 .blank document.nodes
  rw [layout_eq, layout_eq, ← Page.lines_hang, ← hung]
  simp [nodes, nodesAfter, Operation.node, Node.layAll, Node.lay, Page.hang, Page.write,
    Page.blank, hungLines]

/-- Text in front of a block brings no reference. -/
theorem Resolves.behind
    {document : Document}
    (resolves : document.Resolves)
    (front : Text) :
    Document.Resolves [.fixed front, .block document] := by
  have noFault := resolves_iff.mp resolves
  apply resolves_iff.mpr
  simpa [nodes, nodesAfter, Operation.node, Node.firstFault?, Node.fault?] using noFault

end Document

namespace Render

section

variable {front line : Text}

/-- Whether a line opens a bracket is a matter of its end. -/
theorem opensBracket_append
    (front : Text)
    (solid : Text.allBlank line = false) :
    opensBracket (front ++ line) = opensBracket line := by
  have left : Text.trimRight line ≠ [] := by
    intro nothing
    rw [Text.trimRight_eq_nil_iff.mp nothing] at solid
    cases solid
  unfold opensBracket
  rw [Text.trimRight_append front solid, List.getLast?_append,
    List.getLast?_eq_some_getLast left]
  rfl

/-- Blanks in front do not hide a closing bracket. -/
theorem closesBracket_append_blank
    (blank : Text.allBlank front = true)
    (line : Text) :
    closesBracket (front ++ line) = closesBracket line := by
  unfold closesBracket Text.trimLeft
  rw [List.dropWhile_append_of_pos (List.all_eq_true.mp blank)]

end

/-- Spaces in front of lines that are not blank are not seen by spacing rules. -/
theorem unseen_paddedSolid
    (width : Nat)
    (lines : List Text) :
    Unseen (Text.paddedSolid width) lines where
  empty := rfl
  blank := by
    intro line _
    unfold Text.paddedSolid
    split
    · rfl
    · exact Text.allBlank_padded width line
  opens := by
    intro line _ solid
    rw [Text.paddedSolid_of_solid width solid]
    exact opensBracket_append _ solid
  closes := by
    intro line _ solid
    rw [Text.paddedSolid_of_solid width solid]
    exact closesBracket_append_blank (Text.allBlank_spaces width) line

/-- Of the line above them, rows depend only on its place and on the bracket it ends with. -/
theorem rowsBelow_congr
    (spacing : Spacing)
    (upper other : KeptLine)
    (place : upper.2 = other.2)
    (opens : opensBracket upper.1 = opensBracket other.1)
    (lines : List KeptLine) :
    rowsBelow spacing upper lines = rowsBelow spacing other lines := by
  cases lines with
  | nil => rfl
  | cons lower rest => simp only [rowsBelow, gap, place, opens]

/-- The lines with content among lines that stand below a first one. -/
def keptBelowFirst (rest : List Text) : List KeptLine :=
  (rest.zipIdx 1).filter fun line => !Text.allBlank line.1

/-- A first line with content is kept in its place. -/
theorem kept_cons_solid
    {first : Text}
    (solid : Text.allBlank first = false)
    (rest : List Text) :
    kept (first :: rest) = (first, 0) :: keptBelowFirst rest := by
  simp [kept, keptBelowFirst, List.zipIdx_cons, solid]

/-- Padding keeps the same lines, each in its place. -/
theorem keptBelowFirst_padded
    (width : Nat)
    (rest : List Text) :
    keptBelowFirst (rest.map (Text.padded width)) =
      (keptBelowFirst rest).map (KeptLine.edit (Text.paddedSolid width)) := by
  unfold keptBelowFirst
  rw [List.zipIdx_map, List.filter_map]
  have same :
      (rest.zipIdx 1).filter
          ((fun line => !Text.allBlank line.1) ∘ Prod.map (Text.padded width) id) =
        (rest.zipIdx 1).filter fun line => !Text.allBlank line.1 := by
    apply List.filter_congr
    intro line _
    simp [Text.allBlank_padded]
  rw [same]
  apply List.map_congr_left
  intro line member
  have solid : Text.allBlank line.1 = false := by
    simpa using (List.mem_filter.mp member).2
  simp [KeptLine.edit, Prod.map, Text.paddedSolid_of_solid width solid]

/-- The final line break depends on the places of the lines, not on their texts. -/
theorem lastBreak_cons_edit
    (spacing : Spacing)
    (count : Nat)
    (change : Text → Text)
    (first other : Text)
    (lowers : List KeptLine) :
    lastBreak spacing count ((other, 0) :: lowers.map (KeptLine.edit change)) =
      lastBreak spacing count ((first, 0) :: lowers) := by
  unfold lastBreak
  cases lowers with
  | nil => rfl
  | cons lower rest =>
      rw [List.map_cons, List.getLast?_cons_cons, List.getLast?_cons_cons, ← List.map_cons,
        List.getLast?_map]
      cases (lower :: rest).getLast? <;> rfl

/--
Lines that hang from the end of a text get the same line breaks between them as they had
before, and blank ones get no padding.
-/
theorem respaced_hungLines
    (spacing : Spacing)
    (front : Text)
    {first : Text}
    (solid : Text.allBlank first = false)
    (rest : List Text) :
    ∃ tail,
      respaced spacing (first :: rest) = first :: tail ∧
      respaced spacing (hungLines front (first :: rest)) =
        (front ++ first) :: tail.map (Text.paddedSolid front.length) := by
  have hungSolid : Text.allBlank (front ++ first) = false := by
    rw [Text.allBlank] at solid ⊢
    rw [List.all_append, solid, Bool.and_false]
  have members : ∀ line ∈ (first, 0) :: keptBelowFirst rest,
      line.1 ∈ first :: rest ∧ Text.allBlank line.1 = false := by
    rw [← kept_cons_solid solid]
    exact fun line member => solid_of_mem_kept member
  have unseen := unseen_paddedSolid front.length (first :: rest)
  have movedRows := unseen.rowsBelow_map spacing members
  have sameBrackets : opensBracket (front ++ first) =
      opensBracket (Text.paddedSolid front.length first) := by
    rw [opensBracket_append front solid, unseen.opens first List.mem_cons_self solid]
  have hungRows :
      rowsBelow spacing (front ++ first, 0)
          ((keptBelowFirst rest).map (KeptLine.edit (Text.paddedSolid front.length))) =
        (rowsBelow spacing (first, 0) (keptBelowFirst rest)).map
          (Text.paddedSolid front.length) :=
    (rowsBelow_congr spacing (front ++ first, 0)
      (KeptLine.edit (Text.paddedSolid front.length) (first, 0)) rfl sameBrackets _).trans
        movedRows
  refine ⟨_, by rw [respaced, kept_cons_solid solid, rows, List.cons_append], ?_⟩
  rw [respaced, hungLines, kept_cons_solid hungSolid, keptBelowFirst_padded,
    lastBreak_cons_edit spacing _ _ first, rows, hungRows, List.map_append, List.map_map]
  simp [Function.comp_def]

/-- Lines that hang from a line hold no line feed either. -/
theorem not_feed_of_mem_hungLines
    {front : Text}
    (frontFree : '\n' ∉ front)
    {lines : List Text}
    (free : ∀ line ∈ lines, '\n' ∉ line)
    {line : Text}
    (member : line ∈ hungLines front lines) :
    '\n' ∉ line := by
  cases lines with
  | nil => cases member
  | cons first rest =>
      rcases List.mem_cons.mp member with rfl | moved
      · simp [frontFree, free first List.mem_cons_self]
      · rcases List.mem_map.mp moved with ⟨source, inRest, rfl⟩
        exact Text.not_feed_padded _ (free source (List.mem_cons_of_mem _ inRest))

/-- The lines of collapsed text, where the lines it was made of hang from a text. -/
theorem lines_collapse_hungLines
    (spacing : Spacing)
    {front : Text}
    (frontFree : '\n' ∉ front)
    {lines : List Text}
    (free : ∀ line ∈ lines, '\n' ∉ line)
    (begins : front = [] ∨ ∃ first, lines.head? = some first ∧ Text.allBlank first = false) :
    ∃ first rest,
      Text.lines (collapse spacing lines) = first :: rest ∧
      Text.lines (collapse spacing (hungLines front lines)) =
        (front ++ first) :: rest.map (Text.paddedSolid front.length) := by
  rcases begins with rfl | ⟨first, begins, solid⟩
  · rcases List.exists_cons_of_ne_nil (Text.splitWhere_ne_nil _ (collapse spacing lines)) with
      ⟨first, rest, cut⟩
    refine ⟨first, rest, cut, ?_⟩
    rw [hungLines_nil, List.nil_append, List.length_nil,
      List.map_congr_left fun line _ => Text.paddedSolid_zero line, List.map_id']
    exact cut
  · rcases List.head?_eq_some_iff.mp begins with ⟨rest, rfl⟩
    rcases respaced_hungLines spacing front solid rest with ⟨tail, made, hungMade⟩
    refine ⟨first, tail, ?_, ?_⟩
    · rcases lines_collapse spacing free with same | ⟨_, none⟩
      · rw [same, made]
      · rw [made] at none
        cases none
    · rcases lines_collapse spacing
        fun line member => not_feed_of_mem_hungLines frontFree free member with
        same | ⟨_, none⟩
      · rw [same, hungMade]
      · rw [hungMade] at none
        cases none

/-- The name under which a template of one placeholder splices a document in. -/
def soleName : Text :=
  "x".toList

/-- A template of one placeholder holds the document behind the markers of its place. -/
theorem compile_soleName
    (site : Option Token)
    (document : Document) :
    ∃ compilation,
      Template.compile ('$' :: soleName) site (some [(soleName, .document document)]) =
        .ok compilation ∧
      compilation.document = Template.markers site ++ [.block document] := by
  have cut : Template.pieces true ('$' :: soleName) = [.part (.placeholder soleName)] := by
    decide +kernel
  unfold Template.compile
  simp only [cut]
  exact ⟨_, rfl, rfl⟩

/-- Markers and a block around a document leave its text as it is. -/
theorem plain_of_marked_block
    (spacing : Spacing)
    (site : Option Token)
    (document : Document) :
    plain spacing (Template.markers site ++ [.block document]) = plain spacing document := by
  rw [plain_eq, plain_eq, Document.layout_eq, Document.layout_eq]
  cases site <;>
    simp [Template.markers, Document.nodes, Document.nodesAfter, Operation.node,
      Node.firstFault?, Node.fault?, Node.layAll, Node.lay, Page.blank]

/--
A document that is spliced in behind a text is rendered behind it as it is rendered alone,
with every line below the first one moved to the right by the length of the text, blank
lines excepted; the line breaks are the same.  A template of one placeholder splices a
document in at the margin, where it is rendered as it is.
-/
theorem plain_behind
    (spacing : Spacing) :
    (∀ {front : Text} {document : Document},
      '\n' ∉ front → document.FeedFree → document.Resolves →
      (front = [] ∨
        ∃ first, document.layout.head? = some first ∧ Text.allBlank first = false) →
      ∃ text hung first rest,
        plain spacing document = .ok text ∧
        plain spacing [.fixed front, .block document] = .ok hung ∧
        Text.lines text = first :: rest ∧
        Text.lines hung = (front ++ first) :: rest.map (Text.paddedSolid front.length)) ∧
    ∀ site document, ∃ compilation,
      Template.compile ('$' :: soleName) site (some [(soleName, .document document)]) =
        .ok compilation ∧
      plain spacing compilation.document = plain spacing document := by
  constructor
  · intro front document frontFree free resolves begins
    have hungRendered := plain_of_layout spacing (resolves.behind front) rfl
    rw [Document.layout_behind] at hungRendered
    rcases lines_collapse_hungLines spacing frontFree
      (fun line => Document.not_feed_of_mem_layout free) begins with
      ⟨first, rest, cut, hungCut⟩
    exact ⟨_, _, first, rest, plain_of_layout spacing resolves rfl, hungRendered, cut,
      hungCut⟩
  · intro site document
    rcases compile_soleName site document with ⟨compilation, compiled, shape⟩
    exact ⟨compilation, compiled, by rw [shape, plain_of_marked_block]⟩

/-- `callTwice` behind a text: its nested lines and the repeated ones move alike. -/
theorem plain_callTwice_behind :
    callTwice.FeedFree ∧ callTwice.Resolves ∧
    callTwice.layout.head? = some "f(a [".toList ∧
    plain .standard callTwice =
      .ok "f(a [\n  b\n  ]) + a [\n       b\n       ]\n\nend\n".toList ∧
    plain .standard [.fixed "x = ".toList, .block callTwice] =
      .ok ("x = f(a [\n      b\n      ]) + a [\n           b\n           ]\n\n" ++
        "    end\n").toList := by
  have free : callTwice.FeedFree := by decide +kernel
  have resolves : callTwice.Resolves := by decide +kernel
  have begins : callTwice.layout.head? = some "f(a [".toList := by
    rw [Document.layout_eq]
    decide +kernel
  have known : plain .standard callTwice =
      .ok "f(a [\n  b\n  ]) + a [\n       b\n       ]\n\nend\n".toList :=
    plain_of_layAll resolves (by decide +kernel)
  have frontFree : '\n' ∉ "x = ".toList := by decide
  rcases (plain_behind .standard).1 frontFree free resolves
    (.inr ⟨_, begins, by decide⟩) with
    ⟨text, hung, first, rest, rendered, hungRendered, cut, hungCut⟩
  cases rendered.symm.trans known
  have parts : Text.lines "f(a [\n  b\n  ]) + a [\n       b\n       ]\n\nend\n".toList =
      ["f(a [".toList, "  b".toList, "  ]) + a [".toList, "       b".toList,
        "       ]".toList, [], "end".toList, []] := by
    decide +kernel
  rw [parts] at cut
  cases cut
  refine ⟨free, resolves, begins, known, ?_⟩
  rw [hungRendered, ← Text.joinLines_lines hung, hungCut]
  exact congrArg Except.ok (by decide +kernel)

end Render

end Splice
