import Splice.Proofs.Render.Collapse

namespace Splice

/-!
# Lines that are spaced already

What spacing rules make of a row of lines is a row of lines itself (`respaced`), and rules
that allow no more line breaks anywhere do to it what they do to the lines it came from:
the distance of two kept lines is cut off twice, and the second cut decides.  The rules see
of a line only whether it is blank and which brackets it begins and ends with, so a change
that keeps these can be made before they are applied or after.
-/

/-- Rules that allow no more line breaks than other rules do, wherever they stand. -/
structure Spacing.Within (tight loose : Spacing) : Prop where
  cap : tight.cap ≤ loose.cap
  capAfterOpen : tight.capAfterOpen ≤ loose.capAfterOpen
  capBeforeClose : tight.capBeforeClose ≤ loose.capBeforeClose
  finalBreak : tight.finalBreak = true → loose.finalBreak = true

theorem Spacing.Within.refl (spacing : Spacing) : spacing.Within spacing :=
  ⟨Nat.le_refl _, Nat.le_refl _, Nat.le_refl _, id⟩

namespace Render

/-- The lines below a line that is kept: each kept line with the blank ones before it. -/
def rowsBelow (spacing : Spacing) : KeptLine → List KeptLine → List Text
  | _, [] => []
  | upper, lower :: rest =>
      List.replicate (gap spacing upper lower - 1) [] ++
        lower.1 :: rowsBelow spacing lower rest

/-- The kept lines with the blank lines between them. -/
def rows (spacing : Spacing) : List KeptLine → List Text
  | [] => []
  | first :: rest => first.1 :: rowsBelow spacing first rest

/-- The lines that spacing rules make of a row of lines. -/
def respaced (spacing : Spacing) (lines : List Text) : List Text :=
  rows spacing (kept lines) ++
    (lastBreak spacing lines.length (kept lines)).map fun _ => []

/-- Kept lines below a line at `place`, at the places that spacing rules give them. -/
def placedBelow (spacing : Spacing) : KeptLine → Nat → List KeptLine → List KeptLine
  | _, _, [] => []
  | upper, place, lower :: rest =>
      (lower.1, place + gap spacing upper lower) ::
        placedBelow spacing lower (place + gap spacing upper lower) rest

/-- Kept lines at the places that spacing rules give them. -/
def placed (spacing : Spacing) : List KeptLine → List KeptLine
  | [] => []
  | first :: rest => (first.1, 0) :: placedBelow spacing first 0 rest

/-- A kept line with another text. -/
def KeptLine.edit (change : Text → Text) (line : KeptLine) : KeptLine :=
  (change line.1, line.2)

section

variable {tight loose : Spacing} {upper lower : KeptLine}

/-- Between two kept lines stands at least one feed. -/
theorem gap_pos
    (spacing : Spacing)
    (ordered : upper.2 < lower.2) :
    0 < gap spacing upper lower := by
  have cap := spacing.cap_pos
  have afterOpen := spacing.capAfterOpen_pos
  have beforeClose := spacing.capBeforeClose_pos
  simp only [gap]
  split <;> split <;> omega

/-- Where looser rules have cut a distance off already, tighter rules still decide. -/
theorem gap_placed
    (within : tight.Within loose)
    (place : Nat) :
    gap tight (upper.1, place) (lower.1, place + gap loose upper lower) =
      gap tight upper lower := by
  have cap := within.cap
  have afterOpen := within.capAfterOpen
  have beforeClose := within.capBeforeClose
  simp only [gap]
  split <;> split <;> omega

/-- Rules look at nothing but the brackets of a line. -/
theorem gap_edit
    (spacing : Spacing)
    {change : Text → Text}
    (opens : opensBracket (change upper.1) = opensBracket upper.1)
    (closes : closesBracket (change lower.1) = closesBracket lower.1) :
    gap spacing (upper.edit change) (lower.edit change) = gap spacing upper lower := by
  simp only [gap, KeptLine.edit, opens, closes]

end

/-- Kept lines in the order of their places. -/
abbrev Ascending (lines : List KeptLine) : Prop :=
  lines.Pairwise fun upper lower => upper.2 < lower.2

theorem ascending_kept (lines : List Text) : Ascending (kept lines) := by
  have places : (lines.zipIdx.map Prod.snd).Pairwise (· < ·) := by
    rw [List.zipIdx_map_snd]
    exact List.pairwise_lt_range'
  exact (List.pairwise_map.mp places).filter _

/-- A kept line is a solid line of the page. -/
theorem solid_of_mem_kept
    {lines : List Text}
    {line : KeptLine}
    (member : line ∈ kept lines) :
    line.1 ∈ lines ∧ Text.allBlank line.1 = false := by
  rcases List.mem_filter.mp member with ⟨inRow, solid⟩
  exact ⟨List.fst_mem_of_mem_zipIdx inRow, by simpa using solid⟩

section

variable {tight loose : Spacing} {upper : KeptLine} {lines : List KeptLine}

/-- Empty lines between two lines are that many feeds more. -/
theorem joinLines_blanks
    (line : Text)
    (count : Nat)
    (next : Text)
    (rest : List Text) :
    Text.joinLines (line :: (List.replicate count [] ++ next :: rest)) =
      line ++ List.replicate (count + 1) '\n' ++ Text.joinLines (next :: rest) := by
  induction count generalizing line with
  | zero => simp [Text.joinLines]
  | succ count inductionHypothesis =>
      rw [List.replicate_succ, List.cons_append, Text.joinLines, inductionHypothesis]
      simp [List.replicate_succ]

/-- Rows are joined to the text that stands below a line. -/
theorem joinLines_rowsBelow
    (spacing : Spacing)
    (ordered : Ascending (upper :: lines)) :
    Text.joinLines (upper.1 :: rowsBelow spacing upper lines) =
      upper.1 ++ below spacing upper lines := by
  induction lines generalizing upper with
  | nil => simp [rowsBelow, below, Text.joinLines]
  | cons lower rest inductionHypothesis =>
      rcases List.pairwise_cons.mp ordered with ⟨above, restOrdered⟩
      have positive := gap_pos spacing (above lower List.mem_cons_self)
      have breaks : gap spacing upper lower - 1 + 1 = gap spacing upper lower := by omega
      rw [rowsBelow, joinLines_blanks, breaks, inductionHypothesis restOrdered, below]
      simp [List.append_assoc]

/-- Of the rows below a line, the kept lines are kept, at their new places. -/
theorem kept_rowsBelow
    (spacing : Spacing)
    (ordered : Ascending (upper :: lines))
    (solid : ∀ line ∈ lines, Text.allBlank line.1 = false)
    (place : Nat) :
    ((rowsBelow spacing upper lines).zipIdx (place + 1)).filter
        (fun line => !Text.allBlank line.1) =
      placedBelow spacing upper place lines := by
  induction lines generalizing upper place with
  | nil => rfl
  | cons lower rest inductionHypothesis =>
      rcases List.pairwise_cons.mp ordered with ⟨above, restOrdered⟩
      have positive := gap_pos spacing (above lower List.mem_cons_self)
      have lowerSolid := solid lower List.mem_cons_self
      have restPlaced := inductionHypothesis restOrdered
        (fun line member => solid line (List.mem_cons_of_mem _ member))
        (place + gap spacing upper lower)
      have lowerPlace :
          place + 1 + (gap spacing upper lower - 1) = place + gap spacing upper lower := by
        omega
      have blanksDropped :
          ((List.replicate (gap spacing upper lower - 1) ([] : Text)).zipIdx (place + 1)).filter
              (fun line => !Text.allBlank line.1) =
            [] := by
        apply List.filter_eq_nil_iff.mpr
        intro line member
        have blank := List.eq_of_mem_replicate (List.fst_mem_of_mem_zipIdx member)
        simp [blank, Text.allBlank]
      rw [rowsBelow, placedBelow, List.zipIdx_append, List.filter_append, blanksDropped,
        List.length_replicate, lowerPlace, List.zipIdx_cons, List.filter_cons, restPlaced]
      simp [lowerSolid]

/-- The rows of kept lines keep those lines, each at its place. -/
theorem kept_rows
    (spacing : Spacing)
    (ordered : Ascending lines)
    (solid : ∀ line ∈ lines, Text.allBlank line.1 = false) :
    kept (rows spacing lines) = placed spacing lines := by
  cases lines with
  | nil => rfl
  | cons first rest =>
      have firstSolid := solid first List.mem_cons_self
      have restPlaced := kept_rowsBelow spacing ordered
        (fun line member => solid line (List.mem_cons_of_mem _ member)) 0
      rw [kept, rows, placed, List.zipIdx_cons, List.filter_cons, restPlaced]
      simp [firstSolid]

/-- The last line stands in the last row. -/
theorem getLast?_placedBelow
    (spacing : Spacing)
    (ordered : Ascending (upper :: lines))
    (place : Nat)
    {last : KeptLine}
    (ends : (upper :: lines).getLast? = some last) :
    ((upper.1, place) :: placedBelow spacing upper place lines).getLast? =
      some (last.1, place + (rowsBelow spacing upper lines).length) := by
  induction lines generalizing upper place with
  | nil =>
      cases ends
      simp [placedBelow, rowsBelow]
  | cons lower rest inductionHypothesis =>
      rcases List.pairwise_cons.mp ordered with ⟨above, restOrdered⟩
      have positive := gap_pos spacing (above lower List.mem_cons_self)
      rw [List.getLast?_cons_cons] at ends
      have restEnds := inductionHypothesis restOrdered (place + gap spacing upper lower) ends
      have count :
          place + gap spacing upper lower + (rowsBelow spacing lower rest).length =
            place + (rowsBelow spacing upper (lower :: rest)).length := by
        simp only [rowsBelow, List.length_append, List.length_replicate, List.length_cons]
        omega
      rw [placedBelow, List.getLast?_cons_cons, restEnds, count]

/-- The last line kept of the rows is their last row. -/
theorem getLast?_placed
    (spacing : Spacing)
    (ordered : Ascending lines)
    {last : KeptLine}
    (ends : lines.getLast? = some last) :
    ∃ place, (placed spacing lines).getLast? = some (last.1, place) ∧
      place + 1 = (rows spacing lines).length := by
  cases lines with
  | nil => cases ends
  | cons first rest =>
      have restEnds := getLast?_placedBelow spacing ordered 0 ends
      refine ⟨_, restEnds, ?_⟩
      simp [rows]

/-- Tighter rules make the same rows of lines that looser rules have placed. -/
theorem rowsBelow_placedBelow
    (within : tight.Within loose)
    (place : Nat) :
    rowsBelow tight (upper.1, place) (placedBelow loose upper place lines) =
      rowsBelow tight upper lines := by
  induction lines generalizing upper place with
  | nil => rfl
  | cons lower rest inductionHypothesis =>
      rw [placedBelow, rowsBelow, gap_placed within, inductionHypothesis, rowsBelow]

/-- A tighter spacing places lines alike before and after a looser one. -/
theorem rows_placed
    (within : tight.Within loose) :
    rows tight (placed loose lines) = rows tight lines := by
  cases lines with
  | nil => rfl
  | cons first rest => rw [placed, rows, rowsBelow_placedBelow within, rows]

end

/-- Blank lines at the end of a page are not kept. -/
theorem kept_append_blanks
    (lines : List Text)
    {tail : List Text}
    (blank : ∀ line ∈ tail, Text.allBlank line = true) :
    kept (lines ++ tail) = kept lines := by
  have dropped :
      (tail.zipIdx lines.length).filter (fun line => !Text.allBlank line.1) = [] := by
    apply List.filter_eq_nil_iff.mpr
    intro line member
    simp [blank line.1 (List.fst_mem_of_mem_zipIdx member)]
  simp [kept, List.zipIdx_append, dropped]

section

variable {spacing : Spacing} {upper : KeptLine} {lines : List KeptLine} {line : Text}

/-- A row is an empty line or a kept one. -/
theorem mem_rowsBelow
    (member : line ∈ rowsBelow spacing upper lines) :
    line = [] ∨ line ∈ lines.map Prod.fst := by
  induction lines generalizing upper with
  | nil => cases member
  | cons lower rest inductionHypothesis =>
      rw [rowsBelow] at member
      rcases List.mem_append.mp member with blank | later
      · exact .inl (List.eq_of_mem_replicate blank)
      · rcases List.mem_cons.mp later with rfl | inRest
        · exact .inr List.mem_cons_self
        · rcases inductionHypothesis inRest with empty | isKept
          · exact .inl empty
          · exact .inr (List.mem_cons_of_mem _ isKept)

theorem mem_rowsBelow_of_mem
    (member : line ∈ lines.map Prod.fst) :
    line ∈ rowsBelow spacing upper lines := by
  induction lines generalizing upper with
  | nil => cases member
  | cons lower rest inductionHypothesis =>
      apply List.mem_append_right
      rcases List.mem_cons.mp member with rfl | inRest
      · exact List.mem_cons_self
      · exact List.mem_cons_of_mem _ (inductionHypothesis inRest)

end

section

variable (spacing : Spacing) (lines : List Text)

/-- A line that the rules make is empty or one of the lines that they were applied to. -/
theorem mem_respaced
    {line : Text}
    (member : line ∈ respaced spacing lines) :
    line = [] ∨ line ∈ lines := by
  have ofKept (isKept : line ∈ (kept lines).map Prod.fst) : line ∈ lines := by
    rcases List.mem_map.mp isKept with ⟨keptLine, inKept, rfl⟩
    exact (solid_of_mem_kept inKept).1
  rcases List.mem_append.mp member with inRows | atEnd
  · cases shape : kept lines with
    | nil =>
        rw [shape] at inRows
        cases inRows
    | cons first rest =>
        rw [shape] at inRows ofKept
        rcases List.mem_cons.mp inRows with rfl | below
        · exact .inr (ofKept List.mem_cons_self)
        · rcases mem_rowsBelow below with empty | isKept
          · exact .inl empty
          · exact .inr (ofKept (List.mem_cons_of_mem _ isKept))
  · rcases List.mem_map.mp atEnd with ⟨_, _, rfl⟩
    exact .inl rfl

/-- No line with content is lost. -/
theorem mem_respaced_of_mem
    {line : Text}
    (member : line ∈ lines)
    (solid : Text.allBlank line = false) :
    line ∈ respaced spacing lines := by
  rcases List.mem_iff_getElem?.mp member with ⟨place, there⟩
  have inKept : (line, place) ∈ kept lines :=
    List.mem_filter.mpr ⟨List.mem_zipIdx_iff_getElem?.mpr there, by simp [solid]⟩
  have isKept : line ∈ (kept lines).map Prod.fst := List.mem_map_of_mem inKept
  apply List.mem_append_left
  cases shape : kept lines with
  | nil =>
      rw [shape] at isKept
      cases isKept
  | cons first rest =>
      rw [shape] at isKept
      rcases List.mem_cons.mp isKept with rfl | inRest
      · exact List.mem_cons_self
      · exact List.mem_cons_of_mem _ (mem_rowsBelow_of_mem inRest)

/-- Lines spaced again keep what was kept, at its new place. -/
theorem kept_respaced :
    kept (respaced spacing lines) = placed spacing (kept lines) := by
  rw [respaced, kept_append_blanks]
  · exact kept_rows spacing (ascending_kept lines)
      fun line member => (solid_of_mem_kept member).2
  · intro line member
    rcases List.mem_map.mp member with ⟨_, _, rfl⟩
    rfl

/-- A final line break is kept or it is not. -/
theorem joinLines_append_empty
    {lines : List Text}
    (notEmpty : lines ≠ []) :
    Text.joinLines (lines ++ [[]]) = Text.joinLines lines ++ ['\n'] := by
  induction lines with
  | nil => exact (notEmpty rfl).elim
  | cons line rest inductionHypothesis =>
      cases rest with
      | nil => simp [Text.joinLines]
      | cons next more =>
          have tail := inductionHypothesis (by simp)
          simp only [List.cons_append, Text.joinLines] at tail ⊢
          rw [tail]
          simp

/-- Text under spacing rules consists of the lines that the rules make. -/
theorem collapse_eq_joinLines :
    collapse spacing lines = Text.joinLines (respaced spacing lines) := by
  have ordered := ascending_kept lines
  unfold collapse respaced
  cases shape : kept lines with
  | nil => rfl
  | cons first rest =>
      rw [shape] at ordered
      have body : Text.joinLines (rows spacing (first :: rest)) =
          stacked spacing (first :: rest) :=
        joinLines_rowsBelow spacing ordered
      rcases lastBreak_cases spacing lines.length (first :: rest) with none | one
      · simp [none, body]
      · have notEmpty : rows spacing (first :: rest) ≠ [] := by simp [rows]
        simp [one, body, joinLines_append_empty notEmpty]

end

/-- Rules that allow no more than others can be applied behind them. -/
theorem respaced_respaced
    {tight loose : Spacing}
    (within : tight.Within loose)
    (lines : List Text) :
    respaced tight (respaced loose lines) = respaced tight lines := by
  have ordered := ascending_kept lines
  have sameBreak :
      lastBreak tight (respaced loose lines).length (placed loose (kept lines)) =
        lastBreak tight lines.length (kept lines) := by
    cases ends : (kept lines).getLast? with
    | none =>
        rw [List.getLast?_eq_none_iff.mp ends]
        rfl
    | some last =>
        rcases getLast?_placed loose ordered ends with ⟨place, placedEnds, rowCount⟩
        have count :
            (respaced loose lines).length =
              place + 1 + (lastBreak loose lines.length (kept lines)).length := by
          rw [respaced, List.length_append, List.length_map, rowCount]
        -- Behind the last row stands another one exactly if the looser rules kept a break.
        rw [count]
        simp only [lastBreak, ends, placedEnds]
        by_cases tightKeeps : tight.finalBreak = true
        · have looseKeeps := within.finalBreak tightKeeps
          by_cases broken : last.2 + 1 < lines.length <;>
            simp [tightKeeps, looseKeeps, broken]
        · simp [tightKeeps]
  rw [respaced, kept_respaced, rows_placed within, sameBreak, respaced]

/--
A change of lines that spacing rules do not see: it leaves blank lines blank and all other
lines with the brackets that they begin and end with.
-/
structure Unseen (change : Text → Text) (lines : List Text) : Prop where
  empty : change [] = []
  blank : ∀ line ∈ lines, Text.allBlank (change line) = Text.allBlank line
  opens : ∀ line ∈ lines, Text.allBlank line = false →
    opensBracket (change line) = opensBracket line
  closes : ∀ line ∈ lines, Text.allBlank line = false →
    closesBracket (change line) = closesBracket line

namespace Unseen

variable {change : Text → Text} {lines : List Text}

/-- A change that does not show edits the kept lines and keeps no other. -/
theorem kept_map
    (unseen : Unseen change lines) :
    kept (lines.map change) = (kept lines).map (KeptLine.edit change) := by
  unfold kept
  rw [List.zipIdx_map, List.filter_map]
  have same :
      lines.zipIdx.filter ((fun line => !Text.allBlank line.1) ∘ Prod.map change id) =
        lines.zipIdx.filter fun line => !Text.allBlank line.1 := by
    apply List.filter_congr
    intro line member
    simp [unseen.blank line.1 (List.fst_mem_of_mem_zipIdx member)]
  rw [same]
  rfl

/-- A change that does not show edits the rows below a line. -/
theorem rowsBelow_map
    (spacing : Spacing)
    (unseen : Unseen change lines)
    {upper : KeptLine}
    {below : List KeptLine}
    (members : ∀ line ∈ upper :: below, line.1 ∈ lines ∧ Text.allBlank line.1 = false) :
    rowsBelow spacing (upper.edit change) (below.map (KeptLine.edit change)) =
      (rowsBelow spacing upper below).map change := by
  induction below generalizing upper with
  | nil => rfl
  | cons lower rest inductionHypothesis =>
      rcases members upper List.mem_cons_self with ⟨upperIn, upperSolid⟩
      rcases members lower (by simp) with ⟨lowerIn, lowerSolid⟩
      have sameGap := gap_edit spacing (unseen.opens upper.1 upperIn upperSolid)
        (unseen.closes lower.1 lowerIn lowerSolid)
      have restRows := inductionHypothesis
        fun line member => members line (List.mem_cons_of_mem _ member)
      rw [List.map_cons, rowsBelow, sameGap, restRows, rowsBelow]
      simp [KeptLine.edit, unseen.empty]

/-- A change to the lines' texts leaves the last break. -/
theorem lastBreak_map
    (spacing : Spacing)
    (count : Nat)
    (lines : List KeptLine) :
    lastBreak spacing count (lines.map (KeptLine.edit change)) =
      lastBreak spacing count lines := by
  unfold lastBreak
  rw [List.getLast?_map]
  cases lines.getLast? <;> rfl

/-- A change that rules do not see can be made before they are applied or after. -/
theorem respaced_map
    (spacing : Spacing)
    (unseen : Unseen change lines) :
    respaced spacing (lines.map change) = (respaced spacing lines).map change := by
  have members : ∀ line ∈ kept lines, line.1 ∈ lines ∧ Text.allBlank line.1 = false :=
    fun line member => solid_of_mem_kept member
  have sameRows :
      rows spacing ((kept lines).map (KeptLine.edit change)) =
        (rows spacing (kept lines)).map change := by
    cases shape : kept lines with
    | nil => rfl
    | cons first rest =>
        rw [shape] at members
        rw [List.map_cons, rows, unseen.rowsBelow_map spacing members, rows]
        rfl
  rw [respaced, unseen.kept_map, sameRows, lastBreak_map, List.length_map, respaced,
    List.map_append, List.map_map]
  simp [Function.comp_def, unseen.empty]

end Unseen

end Render

end Splice
