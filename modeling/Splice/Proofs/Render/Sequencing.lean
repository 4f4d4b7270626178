import Splice.Proofs.Render.Hanging

namespace Splice

/-!
# Documents one behind the other

A line break between two documents cuts their layout: nothing of what stands above it reaches
the lines below (`Document.layout_append_newline`).  Where the lines at the cut are not blank,
spacing rules put exactly one line break there and decide everything else as if each side
stood alone (`Render.collapse_append`).  So documents of complete lines can be rendered one by
one (`Render.plain_sequenced`).
-/

namespace Page

/-- A page with some closed lines above it. -/
def below (above : List Text) (page : Page) : Page :=
  { page with closed := above ++ page.closed }

variable (above : List Text) (page : Page)

theorem lines_below : (page.below above).lines = above ++ page.lines := by
  simp [below, lines]

theorem breakLine_below
    (column : Nat) :
    (page.below above).breakLine column = (page.breakLine column).below above := by
  simp [below, breakLine]

end Page

mutual

/-- Laying out a node does not look at the lines above. -/
theorem Node.lay_below
    (above : List Text) (base : Nat) (page : Page) :
    ∀ node : Node, node.lay base (page.below above) = (node.lay base page).below above
  | .newline => page.breakLine_below above base
  | .fixed _ | .owned _ | .marker _ | .broken _ => rfl
  | .block nodes | .again nodes => Node.layAll_below above page.line.length page nodes

/-- Laying nodes out takes no notice of the lines that stand above the page. -/
theorem Node.layAll_below
    (above : List Text) (base : Nat) (page : Page) :
    ∀ nodes : List Node,
      Node.layAll base (page.below above) nodes = (Node.layAll base page nodes).below above
  | [] => rfl
  | node :: rest => by
      rw [Node.layAll, Node.lay_below above base page node,
        Node.layAll_below above base (node.lay base page) rest, Node.layAll]

end

/-- Nodes laid out one after the other: the back list goes on where the front one stops. -/
theorem Node.layAll_append
    (base : Nat)
    (page : Page)
    (front back : List Node) :
    Node.layAll base page (front ++ back) =
      Node.layAll base (Node.layAll base page front) back := by
  induction front generalizing page with
  | nil => rfl
  | cons node rest inductionHypothesis => exact inductionHypothesis (node.lay base page)

namespace Document

/-- References that land in their own sequence stand for the same when something comes before. -/
theorem nodes_append
    (front : Document)
    {back : Document}
    (land : back.ReferencesLand) :
    nodes (front ++ back) = nodes front ++ nodes back := by
  apply List.ext_getElem?
  intro index
  by_cases inFront : index < front.length
  · rw [List.getElem?_append_left (by rwa [length_nodes]), nodes_getElem?, nodes_getElem?,
      List.getElem?_append_left inFront, List.take_append_of_le_length (Nat.le_of_lt inFront)]
  · obtain ⟨place, rfl⟩ := Nat.exists_eq_add_of_le (Nat.le_of_not_lt inFront)
    have there : (front ++ back)[front.length + place]? = back[place]? := by
      rw [List.getElem?_append_right (Nat.le_add_right _ _), Nat.add_sub_cancel_left]
    rw [List.getElem?_append_right (by rw [length_nodes]; exact Nat.le_add_right _ _),
      length_nodes, Nat.add_sub_cancel_left]
    cases here : back[place]? with
    | none => rw [nodes_getElem?, nodes_getElem?, there, here, Option.map_none, Option.map_none]
    | some operation =>
        cases operation with
        | back offset =>
            obtain ⟨inner, resolved⟩ := referencesLand_iff.mp land here
            rw [nodes_of_resolved here resolved,
              nodes_of_resolved (there.trans here) (resolve?_append_left front resolved)]
        | _ => rw [nodes_getElem?, nodes_getElem?, there, here]; rfl

/-- A sequence without references has none that could be lost. -/
theorem referencesLand_newline : ReferencesLand [.newline] := by
  intro index offset reference
  cases List.mem_singleton.mp (List.mem_of_getElem? reference)

/-- A newline between two documents whose references resolve breaks none of them. -/
theorem Resolves.append_newline
    {front back : Document}
    (frontResolves : front.Resolves)
    (backResolves : back.Resolves) :
    Resolves (front ++ .newline :: back) := by
  have newline : Resolves [.newline] :=
    .intro referencesLand_newline fun inner member => by cases List.mem_singleton.mp member
  exact EveryLevel.append ReferencesLand.append frontResolves
    (EveryLevel.append ReferencesLand.append newline backResolves)

/-- A line break between two documents cuts their layout. -/
theorem layout_append_newline
    (front : Document)
    {back : Document}
    (land : back.ReferencesLand) :
    layout (front ++ .newline :: back) = front.layout ++ back.layout := by
  have landBelow : ReferencesLand (.newline :: back) :=
    ReferencesLand.append referencesLand_newline land
  have cut : nodes (front ++ .newline :: back) = nodes front ++ .newline :: nodes back := by
    rw [nodes_append front landBelow]
    exact congrArg (nodes front ++ ·) (nodes_append [.newline] land)
  have broken :
      (Node.layAll 0 .blank (nodes front)).breakLine 0 =
        Page.blank.below (Node.layAll 0 .blank (nodes front)).lines := by
    simp [Page.breakLine, Page.below, Page.blank, Page.lines]
  rw [layout_eq, cut, Node.layAll_append, Node.layAll, Node.lay, broken, Node.layAll_below,
    Page.lines_below, layout_eq, layout_eq]

/-- Every document has a first line, whatever stands below its lines. -/
theorem head?_layout_append
    (document : Document)
    (lower : List Text) :
    (document.layout ++ lower).head? = document.layout.head? := by
  rw [layout, Page.lines, List.append_assoc]
  cases (document.layFrom 0 .blank 0).closed <;> rfl

theorem layout_nil : layout [] = [[]] := by
  rw [layout_eq]
  rfl

/--
A document of complete lines: it begins with a line that is not blank, and its last operation
ends another one.
-/
structure Complete (document : Document) : Prop where
  resolves : document.Resolves
  begins : ∃ first, document.layout.head? = some first ∧ Text.allBlank first = false
  ends : document.getLast? = some .newline
  closes : ∃ last, document.layout.dropLast.getLast? = some last ∧ Text.allBlank last = false

/-- Whether the last operation of a document is a line break. -/
def endsLine (document : Document) : Bool :=
  match document.getLast? with
  | some .newline => true
  | _ => false

/-- A document ends its line exactly when its last operation is a newline. -/
theorem endsLine_iff
    (document : Document) :
    document.endsLine = true ↔ document.getLast? = some .newline := by
  unfold endsLine
  split <;> simp_all

/-- Complete lines are read off the layout of the nodes. -/
theorem complete_iff
    (document : Document) :
    document.Complete ↔
      document.Resolves ∧
      ((Node.layAll 0 .blank document.nodes).lines.head?.any fun line => !Text.allBlank line) ∧
      document.endsLine ∧
      ((Node.layAll 0 .blank document.nodes).lines.dropLast.getLast?.any fun line =>
        !Text.allBlank line) := by
  simp only [← layout_eq, Option.any_eq_true, Bool.not_eq_true', endsLine_iff]
  constructor
  · intro complete
    exact ⟨complete.resolves, complete.begins, complete.ends, complete.closes⟩
  · rintro ⟨resolves, begins, ends, closes⟩
    exact ⟨resolves, begins, ends, closes⟩

instance (document : Document) : Decidable document.Complete :=
  decidable_of_iff _ (complete_iff document).symm

/-- A document of complete lines without the line break at its end. -/
theorem Complete.shape
    {document : Document}
    (complete : document.Complete) :
    ∃ (front : Document) (first last : Text),
      document = front ++ [.newline] ∧
      document.layout = front.layout ++ [[]] ∧
      front.layout.head? = some first ∧ Text.allBlank first = false ∧
      front.layout.getLast? = some last ∧ Text.allBlank last = false := by
  obtain ⟨front, rfl⟩ : ∃ front : Document, document = front ++ [.newline] :=
    List.getLast?_eq_some_iff.mp complete.ends
  have laid : layout (front ++ [.newline]) = front.layout ++ [[]] :=
    (layout_append_newline front Sound.empty.resolves.here).trans
      (congrArg (front.layout ++ ·) layout_nil)
  obtain ⟨first, begins, firstSolid⟩ := complete.begins
  obtain ⟨last, closes, lastSolid⟩ := complete.closes
  rw [laid, head?_layout_append] at begins
  rw [laid, List.dropLast_concat] at closes
  exact ⟨front, first, last, rfl, laid, begins, firstSolid, closes, lastSolid⟩

/-- Documents whose references resolve still resolve when they are put one after the other. -/
theorem Resolves.flatten
    {documents : List Document}
    (resolve : ∀ document ∈ documents, document.Resolves) :
    Resolves documents.flatten := by
  induction documents with
  | nil => exact Sound.empty.resolves
  | cons document rest inductionHypothesis =>
      have restResolve := inductionHypothesis fun other member =>
        resolve other (List.mem_cons_of_mem document member)
      exact (resolve document List.mem_cons_self).append ReferencesLand.append restResolve

/-- Several documents are made into one by putting them one behind the other. -/
theorem ofValues_documents (documents : List Document) :
    Document.ofValues (documents.map .document) = .ok documents.flatten := by
  induction documents with
  | nil => rfl
  | cons document rest inductionHypothesis =>
      simp only [List.map_cons, ofValues, inductionHypothesis]
      rfl

end Document

namespace Render

section

variable (spacing : Spacing)

/-- A line at a later place. -/
def KeptLine.lower (count : Nat) (line : KeptLine) : KeptLine :=
  (line.1, line.2 + count)

/-- Lowering all kept lines by one count leaves the feeds between any two of them. -/
theorem below_lower
    (count : Nat)
    (upper : KeptLine)
    (lines : List KeptLine) :
    below spacing (upper.lower count) (lines.map (KeptLine.lower count)) =
      below spacing upper lines := by
  induction lines generalizing upper with
  | nil => rfl
  | cons next rest inductionHypothesis =>
      have sameGap :
          gap spacing (upper.lower count) (next.lower count) = gap spacing upper next := by
        simp only [gap, KeptLine.lower, Nat.add_sub_add_right]
        rfl
      rw [List.map_cons, below, below, sameGap, inductionHypothesis]
      rfl

/-- The stacked text depends on the distances between kept lines only. -/
theorem stacked_lower
    (count : Nat)
    (lines : List KeptLine) :
    stacked spacing (lines.map (KeptLine.lower count)) = stacked spacing lines := by
  cases lines with
  | nil => rfl
  | cons first rest => exact congrArg (first.1 ++ ·) (below_lower spacing count first rest)

/-- The last break depends on the distance to the end only. -/
theorem lastBreak_lower
    (count length : Nat)
    (lines : List KeptLine) :
    lastBreak spacing (count + length) (lines.map (KeptLine.lower count)) =
      lastBreak spacing length lines := by
  unfold lastBreak
  rw [List.getLast?_map]
  cases lines.getLast? with
  | none => rfl
  | some last =>
      have sameSide : last.2 + count + 1 < count + length ↔ last.2 + 1 < length := by omega
      simp only [Option.map_some, KeptLine.lower, sameSide]

/-- The last break looks at no kept line but the last. -/
theorem lastBreak_append
    (count : Nat)
    (front : List KeptLine)
    (first : KeptLine)
    (rest : List KeptLine) :
    lastBreak spacing count (front ++ first :: rest) =
      lastBreak spacing count (first :: rest) := by
  have sameLast : (front ++ first :: rest).getLast? = (first :: rest).getLast? := by
    rw [List.getLast?_append, List.getLast?_eq_some_getLast (List.cons_ne_nil first rest)]
    rfl
  rw [lastBreak, lastBreak, sameLast]

/-- Lines below others are cut off at any line. -/
theorem below_append
    {upper last : KeptLine}
    {middle : List KeptLine}
    (ends : (upper :: middle).getLast? = some last)
    (first : KeptLine)
    (rest : List KeptLine) :
    below spacing upper (middle ++ first :: rest) =
      below spacing upper middle ++ List.replicate (gap spacing last first) '\n' ++
        stacked spacing (first :: rest) := by
  induction middle generalizing upper with
  | nil =>
      cases ends
      simp [below, stacked]
  | cons next more inductionHypothesis =>
      rw [List.getLast?_cons_cons] at ends
      simp only [List.cons_append, below, inductionHypothesis ends, List.append_assoc]

/--
Stacked text cut at a kept line: the gap between the two halves is that of the lines that meet.
-/
theorem stacked_append_cons
    {front : List KeptLine}
    {last : KeptLine}
    (ends : front.getLast? = some last)
    (first : KeptLine)
    (rest : List KeptLine) :
    stacked spacing (front ++ first :: rest) =
      stacked spacing front ++ List.replicate (gap spacing last first) '\n' ++
        stacked spacing (first :: rest) := by
  cases front with
  | nil => cases ends
  | cons top middle =>
      simp only [List.cons_append, stacked, below_append spacing ends, List.append_assoc]

end

/-- The kept lines of two lists: those of the first, then those of the second lowered past it. -/
theorem kept_append
    (above lower : List Text) :
    kept (above ++ lower) = kept above ++ (kept lower).map (KeptLine.lower above.length) := by
  have places : lower.zipIdx above.length = lower.zipIdx.map (KeptLine.lower above.length) := by
    rw [List.zipIdx_eq_map_add]
    exact List.map_congr_left fun line _ => congrArg (line.1, ·) (Nat.add_comm _ _)
  rw [kept, List.zipIdx_append, List.filter_append, Nat.zero_add, places, List.filter_map]
  rfl

/-- A solid last line is the last one kept. -/
theorem getLast?_kept
    {lines : List Text}
    {last : Text}
    (ends : lines.getLast? = some last)
    (solid : Text.allBlank last = false) :
    (kept lines).getLast? = some (last, lines.length - 1) := by
  obtain ⟨front, rfl⟩ := List.getLast?_eq_some_iff.mp ends
  rw [kept_append_solid front solid]
  simp

/-- Where two lines meet that are not blank, one line break stands and nothing else is shared. -/
theorem collapse_append
    (spacing : Spacing)
    {above lower : List Text}
    {last first : Text}
    (ends : above.getLast? = some last)
    (lastSolid : Text.allBlank last = false)
    (begins : lower.head? = some first)
    (firstSolid : Text.allBlank first = false) :
    collapse spacing (above ++ lower) =
      collapse spacing above ++ '\n' :: collapse spacing lower := by
  have keptLast := getLast?_kept ends lastSolid
  obtain ⟨rest, keptFirst⟩ : ∃ rest, kept lower = (first, 0) :: rest := by
    obtain ⟨more, rfl⟩ := List.head?_eq_some_iff.mp begins
    exact ⟨_, kept_cons_solid firstSolid more⟩
  have notEmpty : 0 < above.length := List.length_pos_of_mem (List.mem_of_getLast? ends)
  have oneBreak :
      gap spacing (last, above.length - 1) (KeptLine.lower above.length (first, 0)) = 1 := by
    have places : KeptLine.lower above.length (first, 0) = (first, above.length) :=
      congrArg (first, ·) (Nat.zero_add _)
    have ordered : above.length - 1 < above.length := by omega
    have atLeast : 0 < gap spacing (last, above.length - 1) (first, above.length) :=
      gap_pos spacing ordered
    have atMost :
        gap spacing (last, above.length - 1) (first, above.length) ≤
          above.length - (above.length - 1) :=
      Nat.min_le_left _ _
    rw [places]
    omega
  have noBreakAbove : lastBreak spacing above.length (kept above) = [] := by
    have ended : ¬ above.length - 1 + 1 < above.length := by omega
    simp [lastBreak, keptLast, ended]
  have breakBelow :
      lastBreak spacing (above ++ lower).length (kept (above ++ lower)) =
        lastBreak spacing lower.length (kept lower) := by
    have lowered := lastBreak_lower spacing above.length lower.length (kept lower)
    rw [List.length_append, kept_append, ← lowered, keptFirst, List.map_cons, lastBreak_append]
  have lowered := stacked_lower spacing above.length (kept lower)
  have stackedWhole :
      stacked spacing (kept (above ++ lower)) =
        stacked spacing (kept above) ++ '\n' :: stacked spacing (kept lower) := by
    rw [kept_append]
    rw [keptFirst, List.map_cons] at lowered ⊢
    rw [stacked_append_cons spacing keptLast, oneBreak, lowered]
    simp
  rw [collapse, stackedWhole, breakBelow, collapse, noBreakAbove, collapse]
  simp

/-- Behind a line that is not blank, an empty last line is the final line break. -/
theorem collapse_append_empty
    {spacing : Spacing}
    (keeps : spacing.finalBreak = true)
    {lines : List Text}
    {last : Text}
    (ends : lines.getLast? = some last)
    (solid : Text.allBlank last = false) :
    collapse spacing (lines ++ [[]]) = collapse spacing lines ++ ['\n'] := by
  have keptLast := getLast?_kept ends solid
  have notEmpty : 0 < lines.length := List.length_pos_of_mem (List.mem_of_getLast? ends)
  have breaks : lines.length - 1 + 1 < lines.length + 1 := by omega
  have ended : ¬ lines.length - 1 + 1 < lines.length := by omega
  rw [collapse, collapse, kept_append_blank lines rfl, lastBreak, lastBreak, keptLast]
  simp [keeps, breaks, ended]

section

variable {spacing : Spacing} {documents : List Document}

/-- The layout of documents of complete lines, one behind the other, collapses piece by piece. -/
theorem collapse_layout_flatten
    (keeps : spacing.finalBreak = true)
    (complete : ∀ document ∈ documents, document.Complete) :
    collapse spacing (Document.layout documents.flatten) =
      (documents.map fun document => collapse spacing document.layout).flatten := by
  induction documents with
  | nil =>
      rw [List.flatten_nil, Document.layout_nil]
      rfl
  | cons document rest inductionHypothesis =>
      have restComplete : ∀ other ∈ rest, other.Complete :=
        fun other member => complete other (List.mem_cons_of_mem document member)
      have restResolves := Document.Resolves.flatten fun other member =>
        (restComplete other member).resolves
      obtain ⟨front, _, last, shape, laid, _, _, ends, lastSolid⟩ :=
        (complete document List.mem_cons_self).shape
      have whole : (document :: rest).flatten = front ++ .newline :: rest.flatten := by
        simp [shape]
      have own : collapse spacing document.layout = collapse spacing front.layout ++ ['\n'] := by
        rw [laid, collapse_append_empty keeps ends lastSolid]
      rw [whole, Document.layout_append_newline front restResolves.here, List.map_cons,
        List.flatten_cons, own, List.append_assoc, ← inductionHypothesis restComplete]
      cases rest with
      | nil =>
          rw [List.flatten_nil, Document.layout_nil]
          exact collapse_append_empty keeps ends lastSolid
      | cons next more =>
          obtain ⟨nextFront, first, _, nextShape, _, begins, firstSolid, _, _⟩ :=
            (restComplete next List.mem_cons_self).shape
          have moreResolves := Document.Resolves.flatten fun other member =>
            (restComplete other (List.mem_cons_of_mem next member)).resolves
          have laidBelow :
              Document.layout (next :: more).flatten =
                nextFront.layout ++ Document.layout more.flatten := by
            rw [List.flatten_cons, nextShape, List.append_assoc]
            exact Document.layout_append_newline nextFront moreResolves.here
          have beginsBelow : (Document.layout (next :: more).flatten).head? = some first := by
            rw [laidBelow, Document.head?_layout_append, begins]
          exact collapse_append spacing ends lastSolid beginsBelow firstSolid

/-- Documents that resolve render one by one, each to its collapsed layout. -/
theorem mapM_plain
    (resolve : ∀ document ∈ documents, document.Resolves) :
    documents.mapM (plain spacing) =
      .ok (documents.map fun document => collapse spacing document.layout) := by
  induction documents with
  | nil => rfl
  | cons document rest inductionHypothesis =>
      have restRendered := inductionHypothesis fun other member =>
        resolve other (List.mem_cons_of_mem document member)
      rw [List.mapM_cons, restRendered,
        plain_of_layout spacing (resolve document List.mem_cons_self) rfl]
      rfl

end

/--
Documents of complete lines that are made into one are rendered one behind the other, if
final line breaks are kept; and two documents that meet in lines which are not blank, with a
line break between them, are rendered with that line break between their texts.
-/
theorem plain_sequenced
    (spacing : Spacing) :
    (∀ {documents : List Document},
      spacing.finalBreak = true → (∀ document ∈ documents, document.Complete) →
      ∃ joined texts,
        Document.ofValues (documents.map .document) = .ok joined ∧
        documents.mapM (plain spacing) = .ok texts ∧
        plain spacing joined = .ok texts.flatten) ∧
    ∀ {upper lower : Document} {last first : Text},
      upper.Resolves → lower.Resolves →
      upper.layout.getLast? = some last → Text.allBlank last = false →
      lower.layout.head? = some first → Text.allBlank first = false →
      ∃ above behind,
        plain spacing upper = .ok above ∧
        plain spacing lower = .ok behind ∧
        plain spacing (upper ++ .newline :: lower) = .ok (above ++ '\n' :: behind) := by
  constructor
  · intro documents keeps complete
    have resolve : ∀ document ∈ documents, document.Resolves :=
      fun document member => (complete document member).resolves
    refine ⟨_, _, Document.ofValues_documents documents, mapM_plain resolve, ?_⟩
    rw [plain_of_layout spacing (Document.Resolves.flatten resolve) rfl,
      collapse_layout_flatten keeps complete]
  · intro upper lower last first upperResolves lowerResolves ends lastSolid begins firstSolid
    refine ⟨_, _, plain_of_layout spacing upperResolves rfl,
      plain_of_layout spacing lowerResolves rfl, ?_⟩
    rw [plain_of_layout spacing (upperResolves.append_newline lowerResolves) rfl,
      Document.layout_append_newline upper lowerResolves.here,
      collapse_append spacing ends lastSolid begins firstSolid]

/-- Complete lines that open and close brackets, with an argument that is used twice. -/
def bracketedLines : List Document :=
  [[.fixed "if (x) \x7b".toList, .newline],
    [.fixed "  ".toList, .block [.owned "f(".toList, .newline, .newline, .owned "a);".toList],
      .newline, .newline, .newline, .newline, .fixed "  ".toList, .back 6, .newline],
    [.fixed "\x7d".toList, .newline]]

/-- A call in braces from three documents, and a bracket from two joined by a newline. -/
theorem plain_bracketedLines :
    (∀ document ∈ bracketedLines, document.Complete) ∧
    bracketedLines.mapM (plain .standard) =
      .ok ["if (x) \x7b\n".toList, "  f(\n  a);\n\n  f(\n  a);\n".toList, "\x7d\n".toList] ∧
    plain .standard bracketedLines.flatten =
      .ok "if (x) \x7b\n  f(\n  a);\n\n  f(\n  a);\n\x7d\n".toList ∧
    plain .standard ([.fixed "a (".toList] ++ .newline :: [.fixed ") b".toList]) =
      .ok "a (\n) b".toList := by
  have complete : ∀ document ∈ bracketedLines, document.Complete := by decide +kernel
  have known : bracketedLines.mapM (plain .standard) =
      .ok ["if (x) \x7b\n".toList, "  f(\n  a);\n\n  f(\n  a);\n".toList, "\x7d\n".toList] := by
    rw [mapM_plain fun document member => (complete document member).resolves]
    simp only [Document.layout_eq]
    exact congrArg Except.ok (by decide +kernel)
  refine ⟨complete, known, ?_, ?_⟩
  · rcases (plain_sequenced .standard).1 rfl complete with ⟨joined, texts, made, each, whole⟩
    cases made.symm.trans (Document.ofValues_documents bracketedLines)
    cases each.symm.trans known
    rw [whole]
    exact congrArg Except.ok (by decide +kernel)
  · have opens : Document.layout [.fixed "a (".toList] = ["a (".toList] := by
      rw [Document.layout_eq]
      rfl
    have closes : Document.layout [.fixed ") b".toList] = [") b".toList] := by
      rw [Document.layout_eq]
      rfl
    have upperResolves : Document.Resolves [.fixed "a (".toList] := by decide +kernel
    have lowerResolves : Document.Resolves [.fixed ") b".toList] := by decide +kernel
    rcases (plain_sequenced .standard).2 upperResolves lowerResolves
      (by rw [opens]; rfl) (by decide) (by rw [closes]; rfl) (by decide) with
      ⟨above, behind, upperText, lowerText, whole⟩
    have upperKnown : plain .standard [.fixed "a (".toList] = .ok "a (".toList :=
      plain_of_layAll upperResolves (by decide +kernel)
    have lowerKnown : plain .standard [.fixed ") b".toList] = .ok ") b".toList :=
      plain_of_layAll lowerResolves (by decide +kernel)
    cases upperText.symm.trans upperKnown
    cases lowerText.symm.trans lowerKnown
    rw [whole]
    exact congrArg Except.ok (by decide +kernel)

end Render

end Splice
