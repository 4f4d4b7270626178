import Splice.Render.Walk

namespace Splice.Render

/-!
# A walk in stages

A walk is followed move by move.  At every stage there is a desk, and a row of errands says
what is left to do: nodes to visit, a break to count for the line that was just finished, and
blocks to leave.  When no errand is left the last line is finished, and a final break may be
kept.  A stage also remembers the lines that were moved to the output.

`reaches_walkDocument` says that the stages lead where the walk leads: to the desk at its
end, or to the node that stops it with the desk as it is there.
-/

variable {σ μ : Type} [Hooks μ]

/-- Something that is left to do. -/
inductive Errand (σ : Type) where
  /-- Visit a node whose new lines begin at `base`. -/
  | visit (base : Nat) (node : Node)
  /-- Count the break of the line that was just finished. -/
  | count
  /-- Leave the block that was entered with `outside`. -/
  | leave (outside : σ)

/-- How far the end of a walk has come. -/
inductive Ending where
  | ahead
  /-- The last line is finished. -/
  | lastLine
  /-- A final break was kept if there was one to keep. -/
  | reached

/-- A point of a walk. -/
structure Stage (σ μ : Type) where
  desk : Desk σ μ
  /-- The lines that were moved to the output. -/
  written : List Text
  errands : List (Errand σ)
  ending : Ending

/-- Visits to several nodes, one after the other. -/
def visits (base : Nat) (nodes : List Node) : List (Errand σ) :=
  nodes.map (.visit base)

/-- The stage at which a walk of a document begins. -/
def Stage.start (desk : Desk σ μ) (document : Document) : Stage σ μ :=
  ⟨desk, [], visits 0 document.nodes, .ahead⟩

namespace Sheet

/-- The lines that finishing the line under construction moves to the output. -/
def moved (sheet : Sheet μ) : List Text :=
  if Text.allBlank sheet.lineText then [] else [sheet.lineText]

/-- Count one more line break, unless as many as the cap allows wait already. -/
def countBreak (sheet : Sheet μ) : Sheet μ :=
  if sheet.pending < sheet.cap then { sheet with pending := sheet.pending + 1 } else sheet

/-- Keep one final line break if the rules ask for it and one waits. -/
def close (spacing : Spacing) (sheet : Sheet μ) : Sheet μ :=
  if spacing.finalBreak && sheet.emitted && sheet.pending != 0 then
    { sheet with output := sheet.output ++ Hooks.feeds 1 }
  else sheet

/-- Breaking a line flushes it and counts the break. -/
theorem breakLine_eq
    (spacing : Spacing)
    (column : Nat)
    (sheet : Sheet μ) :
    sheet.breakLine spacing column = (sheet.flush spacing column).countBreak :=
  rfl

/-- Finishing flushes the line and closes the text. -/
theorem finish_eq
    (spacing : Spacing)
    (sheet : Sheet μ) :
    sheet.finish spacing = (sheet.flush spacing 0).close spacing :=
  rfl

end Sheet

/-- The line under construction is finished, and a new one begins at a column. -/
inductive Flushes (spacing : Spacing) : Nat → Stage σ μ → Stage σ μ → Prop where
  | breakLine (desk : Desk σ μ) (written : List Text) (base : Nat) (rest : List (Errand σ)) :
      Flushes spacing base
        ⟨desk, written, .visit base .newline :: rest, .ahead⟩
        ⟨{ desk with sheet := desk.sheet.flush spacing base }, written ++ desk.sheet.moved,
          .count :: rest, .ahead⟩
  | lastLine (desk : Desk σ μ) (written : List Text) :
      Flushes spacing 0
        ⟨desk, written, [], .ahead⟩
        ⟨{ desk with sheet := desk.sheet.flush spacing 0 }, written ++ desk.sheet.moved,
          [], .lastLine⟩

namespace Flushes

variable {spacing : Spacing} {base : Nat} {stage later : Stage σ μ}

/-- A flush does to the sheet what flushing its line does. -/
theorem sheet_eq
    (flushes : Flushes spacing base stage later) :
    later.desk.sheet = stage.desk.sheet.flush spacing base := by
  cases flushes <;> rfl

/-- A flush moves the line to what was written, when there is one. -/
theorem written_eq
    (flushes : Flushes spacing base stage later) :
    later.written = stage.written ++ stage.desk.sheet.moved := by
  cases flushes <;> rfl

end Flushes

/-- One move of a walk. -/
inductive Move (pen : Pen σ μ) (spacing : Spacing) : Stage σ μ → Stage σ μ → Prop where
  | flush {base : Nat} {stage later : Stage σ μ} (flushes : Flushes spacing base stage later) :
      Move pen spacing stage later
  | count (desk : Desk σ μ) (written : List Text) (rest : List (Errand σ)) :
      Move pen spacing
        ⟨desk, written, .count :: rest, .ahead⟩
        ⟨{ desk with sheet := desk.sheet.countBreak }, written, rest, .ahead⟩
  | write (desk : Desk σ μ) (written : List Text) {node : Node} {text : Text}
      (isText : node = .fixed text ∨ node = .owned text) (base : Nat) (rest : List (Errand σ)) :
      Move pen spacing
        ⟨desk, written, .visit base node :: rest, .ahead⟩
        ⟨{ desk with sheet := desk.sheet.write text (pen.ink desk.hand) }, written, rest, .ahead⟩
  | enter (desk : Desk σ μ) (written : List Text) {node : Node} {nodes : List Node}
      (isBlock : node = .block nodes ∨ node = .again nodes) (base : Nat)
      (rest : List (Errand σ)) :
      Move pen spacing
        ⟨desk, written, .visit base node :: rest, .ahead⟩
        ⟨{ desk with hand := pen.enter desk.hand }, written,
          visits desk.sheet.column nodes ++ .leave desk.hand :: rest, .ahead⟩
  | leave (desk : Desk σ μ) (written : List Text) (outside : σ) (rest : List (Errand σ)) :
      Move pen spacing
        ⟨desk, written, .leave outside :: rest, .ahead⟩
        ⟨{ desk with hand := pen.leave outside desk.hand }, written, rest, .ahead⟩
  | mark (desk : Desk σ μ) (written : List Text) (token : Token) (base : Nat)
      (rest : List (Errand σ)) :
      Move pen spacing
        ⟨desk, written, .visit base (.marker token) :: rest, .ahead⟩
        ⟨{ desk with hand := pen.mark token desk.hand }, written, rest, .ahead⟩
  | close (desk : Desk σ μ) (written : List Text) :
      Move pen spacing
        ⟨desk, written, [], .lastLine⟩
        ⟨{ desk with sheet := desk.sheet.close spacing }, written, [], .reached⟩

/-- The stages that some moves lead to. -/
inductive Reaches (pen : Pen σ μ) (spacing : Spacing) (start : Stage σ μ) : Stage σ μ → Prop where
  | start : Reaches pen spacing start start
  | next {stage later : Stage σ μ}
      (reaches : Reaches pen spacing start stage)
      (move : Move pen spacing stage later) :
      Reaches pen spacing start later

namespace Reaches

variable {pen : Pen σ μ} {spacing : Spacing} {first second third : Stage σ μ}

theorem trans
    (reaches : Reaches pen spacing first second)
    (more : Reaches pen spacing second third) :
    Reaches pen spacing first third := by
  induction more with
  | start => exact reaches
  | next _ move inductionHypothesis => exact inductionHypothesis.next move

theorem of_move
    (move : Move pen spacing first second) :
    Reaches pen spacing first second :=
  .next .start move

end Reaches

/-- A stage at which a node that stands for nothing is to be visited. -/
def Stage.IsStoppedBy (fault : Malformed) (left : Desk σ μ) (stage : Stage σ μ) : Prop :=
  stage.desk = left ∧ ∃ base rest, stage.errands = .visit base (.broken fault) :: rest

/--
The moves from a stage lead to a stage with the desk of a result and with these errands left,
or to the node that stops them.
-/
def LeadsTo
    (pen : Pen σ μ)
    (spacing : Spacing)
    (stage : Stage σ μ)
    (rest : List (Errand σ)) :
    Except (Stopped σ μ) (Desk σ μ) → Prop
  | .ok done => ∃ written, Reaches pen spacing stage ⟨done, written, rest, .ahead⟩
  | .error (fault, left) =>
      ∃ last, Reaches pen spacing stage last ∧ last.IsStoppedBy fault left

section

variable {pen : Pen σ μ} {spacing : Spacing} {stage : Stage σ μ} {rest : List (Errand σ)}

/-- What a later stage leads to, an earlier one does. -/
theorem LeadsTo.behind
    {earlier : Stage σ μ}
    {result : Except (Stopped σ μ) (Desk σ μ)}
    (reaches : Reaches pen spacing earlier stage)
    (leads : LeadsTo pen spacing stage rest result) :
    LeadsTo pen spacing earlier rest result := by
  cases result with
  | ok done =>
      rcases leads with ⟨written, more⟩
      exact ⟨written, reaches.trans more⟩
  | error stopped =>
      rcases leads with ⟨last, more, isLast⟩
      exact ⟨last, reaches.trans more, isLast⟩

/-- A block is entered, its nodes are visited, and it is left. -/
theorem leadsTo_block
    {base : Nat}
    {desk : Desk σ μ}
    {written : List Text}
    (node : Node)
    {nodes : List Node}
    (isBlock : node = .block nodes ∨ node = .again nodes)
    (inside : LeadsTo pen spacing
      ⟨{ desk with hand := pen.enter desk.hand }, written,
        visits desk.sheet.column nodes ++ .leave desk.hand :: rest, .ahead⟩
      (.leave desk.hand :: rest)
      (walkAll pen spacing desk.sheet.column { desk with hand := pen.enter desk.hand } nodes)) :
    LeadsTo pen spacing ⟨desk, written, .visit base node :: rest, .ahead⟩ rest
      (walk pen spacing base desk node) := by
  have entered := inside.behind (.of_move (.enter desk written isBlock base rest))
  have same : walk pen spacing base desk node = walk pen spacing base desk (.block nodes) := by
    rcases isBlock with rfl | rfl <;> rfl
  rw [same]
  simp only [walk, bind, Except.bind]
  cases walked : walkAll pen spacing desk.sheet.column
      { desk with hand := pen.enter desk.hand } nodes with
  | error stopped =>
      rw [walked] at entered
      exact entered
  | ok done =>
      rw [walked] at entered
      rcases entered with ⟨later, reaches⟩
      exact ⟨later, reaches.next (.leave done later desk.hand rest)⟩

end

mutual

/-- Visiting a node leads where the walk of the node leads. -/
theorem leadsTo_walk
    (pen : Pen σ μ)
    (spacing : Spacing)
    (base : Nat)
    (desk : Desk σ μ)
    (written : List Text)
    (rest : List (Errand σ)) :
    ∀ node : Node,
      LeadsTo pen spacing ⟨desk, written, .visit base node :: rest, .ahead⟩ rest
        (walk pen spacing base desk node)
  | .newline => by
      rw [walk, Sheet.breakLine_eq]
      exact ⟨_, (Reaches.of_move (.flush (.breakLine desk written base rest))).next
        (.count _ _ rest)⟩
  | .fixed _ => ⟨_, .of_move (.write desk written (.inl rfl) base rest)⟩
  | .owned _ => ⟨_, .of_move (.write desk written (.inr rfl) base rest)⟩
  | .marker token => ⟨_, .of_move (.mark desk written token base rest)⟩
  | .broken _ => ⟨_, .start, rfl, base, rest, rfl⟩
  | .block nodes =>
      leadsTo_block (.block nodes) (.inl rfl)
        (leadsTo_walkAll pen spacing desk.sheet.column _ written _ nodes)
  | .again nodes =>
      leadsTo_block (.again nodes) (.inr rfl)
        (leadsTo_walkAll pen spacing desk.sheet.column _ written _ nodes)

/-- A walk over nodes is led to from the errands of visiting them. -/
theorem leadsTo_walkAll
    (pen : Pen σ μ)
    (spacing : Spacing)
    (base : Nat)
    (desk : Desk σ μ)
    (written : List Text)
    (rest : List (Errand σ)) :
    ∀ nodes : List Node,
      LeadsTo pen spacing ⟨desk, written, visits base nodes ++ rest, .ahead⟩ rest
        (walkAll pen spacing base desk nodes)
  | [] => ⟨written, .start⟩
  | node :: others => by
      have first := leadsTo_walk pen spacing base desk written (visits base others ++ rest) node
      simp only [walkAll, bind, Except.bind]
      cases walked : walk pen spacing base desk node with
      | error stopped =>
          rw [walked] at first
          exact first
      | ok next =>
          rw [walked] at first
          rcases first with ⟨later, reaches⟩
          exact (leadsTo_walkAll pen spacing base next later rest others).behind reaches

end

/-- The stages lead to the desk at the end of a walk, or to the node that stops it. -/
theorem reaches_walkDocument
    (pen : Pen σ μ)
    (spacing : Spacing)
    (desk : Desk σ μ)
    (document : Document) :
    match walkDocument pen spacing desk document with
    | .ok done =>
        ∃ written, Reaches pen spacing (.start desk document) ⟨done, written, [], .reached⟩
    | .error (fault, left) =>
        ∃ last, Reaches pen spacing (.start desk document) last ∧ last.IsStoppedBy fault left := by
  have leads := leadsTo_walkAll pen spacing 0 desk [] [] document.nodes
  rw [List.append_nil] at leads
  simp only [walkDocument, bind, Except.bind]
  cases walked : walkAll pen spacing 0 desk document.nodes with
  | error stopped =>
      rw [walked] at leads
      exact leads
  | ok done =>
      rw [walked] at leads
      rcases leads with ⟨written, reaches⟩
      simp only [Sheet.finish_eq]
      exact ⟨_, (reaches.next (.flush (.lastLine done written))).next (.close _ _)⟩

end Splice.Render
