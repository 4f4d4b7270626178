import Mathlib.Data.List.TakeWhile
import Splice.Proofs.Text.Lines
import Splice.Template.Piece

namespace Splice.Template

/-!
# Reading a text from left to right

Whatever is made of a text by going through it once, one thing for every longest run of a
dollar sign and name characters and another for every other character, is a `scan`.  A
name ends in front of any character that is none of a name, so a scan may be cut there:
at the end of a line, and where the blanks at the end of a line begin.
-/

variable {α : Type}

/-- Go through a text with what becomes of a character and of a name. -/
def scan (char : Char → List α) (name : Text → List α) : Text → List α
  | [] => []
  | c :: rest =>
      if c = '$' then
        name (rest.takeWhile isNameChar) ++ scan char name (rest.dropWhile isNameChar)
      else
        char c ++ scan char name rest
termination_by text => text.length
decreasing_by
  · exact Nat.lt_succ_of_le (List.dropWhile_sublist isNameChar).length_le
  · exact Nat.lt_succ_self _

/-- The names of a text in the order in which they come, repeated ones too. -/
def names (text : Text) : List Text :=
  scan (fun _ => []) (fun name => [name]) text

section

variable {char : Char → List α} {name : Text → List α} {c : Char}

@[simp] theorem scan_nil : scan char name [] = [] := by
  rw [scan]

/-- A dollar sign takes the name behind it. -/
theorem scan_dollar
    (rest : Text) :
    scan char name ('$' :: rest) =
      name (rest.takeWhile isNameChar) ++ scan char name (rest.dropWhile isNameChar) := by
  rw [scan, if_pos rfl]

/-- Any other character stands for itself. -/
theorem scan_of_ne
    (notDollar : c ≠ '$')
    (rest : Text) :
    scan char name (c :: rest) = char c ++ scan char name rest := by
  rw [scan, if_neg notDollar]

/-- The name in front of a text ends at the first character that is not part of a name. -/
theorem takeWhile_dropWhile_append
    (stops : isNameChar c = false)
    (front back : Text) :
    (front ++ c :: back).takeWhile isNameChar = front.takeWhile isNameChar ∧
      (front ++ c :: back).dropWhile isNameChar = front.dropWhile isNameChar ++ c :: back := by
  induction front with
  | nil => simp [stops]
  | cons d rest inductionHypothesis =>
      cases isName : isNameChar d with
      | false => simp [isName]
      | true => simpa [isName] using inductionHypothesis

/-- A scan may be cut in front of a character that is none of a name. -/
theorem scan_append
    (stops : isNameChar c = false)
    (front back : Text) :
    scan char name (front ++ c :: back) = scan char name front ++ scan char name (c :: back) := by
  fun_induction scan char name front with
  | case1 => rfl
  | case2 rest inductionHypothesis =>
      rcases takeWhile_dropWhile_append stops rest back with ⟨taken, dropped⟩
      rw [List.cons_append, scan_dollar, taken, dropped, inductionHypothesis, List.append_assoc]
  | case3 d rest notDollar inductionHypothesis =>
      rw [List.cons_append, scan_of_ne notDollar, inductionHypothesis, List.append_assoc]

/-- Characters that are neither a dollar sign nor part of a name may be cut off in front. -/
theorem scan_append_of_plain
    {front : Text}
    (plain : ∀ d ∈ front, d ≠ '$')
    (back : Text) :
    scan char name (front ++ back) = front.flatMap char ++ scan char name back := by
  induction front with
  | nil => rfl
  | cons d rest inductionHypothesis =>
      have tail := inductionHypothesis fun e member => plain e (List.mem_cons_of_mem _ member)
      rw [List.cons_append, scan_of_ne (plain d List.mem_cons_self), tail, List.flatMap_cons,
        List.append_assoc]

/-- A text without a dollar sign is scanned character by character. -/
theorem scan_plain
    {text : Text}
    (plain : ∀ d ∈ text, d ≠ '$') :
    scan char name text = text.flatMap char := by
  have whole : scan char name (text ++ []) = text.flatMap char ++ scan char name [] :=
    scan_append_of_plain plain []
  simpa using whole

/-- The characters of names are ASCII. -/
theorem bounds_of_isNameChar
    {c : Char}
    (isName : isNameChar c = true) :
    48 ≤ c.toNat ∧ c.toNat ≤ 122 := by
  have within {low high : Char}
      (above : low.val ≤ c.val)
      (below : c.val ≤ high.val)
      (lowest : 48 ≤ low.toNat)
      (highest : high.toNat ≤ 122) :
      48 ≤ c.toNat ∧ c.toNat ≤ 122 :=
    ⟨Nat.le_trans lowest (UInt32.le_iff_toNat_le.mp above),
      Nat.le_trans (UInt32.le_iff_toNat_le.mp below) highest⟩
  rcases Bool.or_eq_true_iff.mp isName with alphanumeric | underscore
  · rcases Bool.or_eq_true_iff.mp alphanumeric with letter | digit
    · rcases Bool.or_eq_true_iff.mp letter with upper | lower
      · rcases of_decide_eq_true upper with ⟨above, below⟩
        exact within above below (by decide) (by decide)
      · rcases Bool.and_eq_true_iff.mp lower with ⟨above, below⟩
        exact within (of_decide_eq_true above) (of_decide_eq_true below) (by decide) (by decide)
    · rcases Bool.and_eq_true_iff.mp digit with ⟨above, below⟩
      exact within (of_decide_eq_true above) (of_decide_eq_true below) (by decide) (by decide)
  · rw [beq_iff_eq.mp underscore]
    decide

theorem plain_of_isBlank
    {c : Char}
    (blank : Text.isBlank c = true) :
    c ≠ '$' ∧ isNameChar c = false := by
  constructor
  · rintro rfl
    cases blank
  · cases isName : isNameChar c with
    | false => rfl
    | true =>
        have bounds := bounds_of_isNameChar isName
        simp only [Text.isBlank, Bool.or_eq_true, Bool.and_eq_true, decide_eq_true_eq,
          beq_iff_eq] at blank
        omega

/-- Blanks at the end are part of no name. -/
theorem scan_append_blanks
    (front : Text)
    {back : Text}
    (blank : Text.allBlank back = true) :
    scan char name (front ++ back) = scan char name front ++ back.flatMap char := by
  have plain := fun d member => plain_of_isBlank (List.all_eq_true.mp blank d member)
  cases back with
  | nil => simp
  | cons c rest =>
      rw [scan_append (plain c List.mem_cons_self).2, scan_plain fun d member => (plain d member).1]

/-- Blanks in front are part of no name. -/
theorem scan_blanks_append
    {front : Text}
    (blank : Text.allBlank front = true)
    (back : Text) :
    scan char name (front ++ back) = front.flatMap char ++ scan char name back :=
  scan_append_of_plain
    (fun d member => (plain_of_isBlank (List.all_eq_true.mp blank d member)).1) back

/-- A scan may be cut behind every line. -/
theorem scan_append_feed
    (line rest : Text) :
    scan char name (line ++ '\n' :: rest) =
      scan char name line ++ (char '\n' ++ scan char name rest) := by
  rw [scan_append (by decide), scan_of_ne (by decide)]

end

/-- Parts begin with literal text, maybe empty; a dollar sign in front takes its name there. -/
theorem consChar_cases
    (parts : List Part) :
    ∃ text rest,
      Part.consChar '$' parts =
        .placeholder (text.takeWhile isNameChar) ::
          Part.literalBefore (text.dropWhile isNameChar) rest ∧
      ∀ c, c ≠ '$' → Part.consChar c parts = .literal (c :: text) :: rest := by
  cases parts with
  | nil => exact ⟨[], [], rfl, fun c notDollar => by simp [Part.consChar, notDollar]⟩
  | cons first rest =>
      cases first with
      | literal text =>
          exact ⟨text, rest, rfl, fun c notDollar => by simp [Part.consChar, notDollar]⟩
      | placeholder name =>
          exact ⟨[], .placeholder name :: rest, rfl,
            fun c notDollar => by simp [Part.consChar, notDollar]⟩

/-- A dollar sign takes the longest run of name characters behind it as its name. -/
theorem parts_dollar
    (rest : Text) :
    parts ('$' :: rest) =
      .placeholder (rest.takeWhile isNameChar) :: parts (rest.dropWhile isNameChar) := by
  induction rest with
  | nil => rfl
  | cons c more inductionHypothesis =>
      rcases consChar_cases (parts more) with ⟨text, others, dollar, plain⟩
      -- Parts are built from the right: `c` is put in front before the dollar sign takes it.
      rw [parts, dollar, List.cons.injEq, Part.placeholder.injEq] at inductionHypothesis
      cases isName : isNameChar c with
      | true =>
          have notDollar : c ≠ '$' := by
            rintro rfl
            cases isName
          rw [parts, parts, plain c notDollar]
          simp only [Part.consChar, ↓reduceIte, List.takeWhile_cons, List.dropWhile_cons, isName,
            inductionHypothesis]
      | false =>
          simp only [List.takeWhile_cons, List.dropWhile_cons, isName, Bool.false_eq_true,
            ↓reduceIte]
          rw [parts, parts]
          by_cases isDollar : c = '$'
          · rw [isDollar, dollar]
            rfl
          · rw [plain c isDollar]
            simp [Part.consChar, isName, Part.literalBefore]

/-- What becomes of a part. -/
def Part.read (char : Char → List α) (name : Text → List α) : Part → List α
  | .literal text => text.flatMap char
  | .placeholder text => name text

/-- Reading the parts of a text is scanning it. -/
theorem flatMap_read_parts
    (char : Char → List α)
    (name : Text → List α)
    (text : Text) :
    (parts text).flatMap (Part.read char name) = scan char name text := by
  fun_induction scan char name text with
  | case1 => rfl
  | case2 rest inductionHypothesis =>
      rw [parts_dollar, List.flatMap_cons, inductionHypothesis]
      rfl
  | case3 c rest notDollar inductionHypothesis =>
      rw [← inductionHypothesis, parts]
      unfold Part.consChar
      split
      · next text more shape => simp [shape, notDollar, Part.read]
      · simp [notDollar, Part.read]

theorem flatMap_nothing
    (text : Text) :
    text.flatMap (fun _ => ([] : List α)) = [] :=
  List.flatMap_eq_nil_iff.mpr fun _ _ => rfl

/-- The names of the parts are the names of the text. -/
theorem filterMap_name?_parts
    (text : Text) :
    (parts text).filterMap Part.name? = names text := by
  rw [names, ← flatMap_read_parts]
  induction parts text with
  | nil => rfl
  | cons part rest inductionHypothesis =>
      rw [List.flatMap_cons, ← inductionHypothesis]
      cases part with
      | literal written =>
          rw [Part.read, flatMap_nothing]
          rfl
      | placeholder name => rfl

/-- The placeholders of a template are its names, each once. -/
theorem placeholders_eq_eraseDups
    (text : Text) :
    placeholders text = (names text).eraseDups := by
  rw [placeholders, filterMap_name?_parts]

/-- A name is a placeholder exactly when it stands in the template. -/
theorem mem_placeholders_iff
    {text name : Text} :
    name ∈ placeholders text ↔ name ∈ names text := by
  rw [placeholders_eq_eraseDups, List.mem_eraseDups]

/-- Names consist of the characters of names. -/
theorem isNameChar_of_mem_names
    {text name : Text}
    (member : name ∈ names text)
    {c : Char}
    (inName : c ∈ name) :
    isNameChar c = true := by
  unfold names at member
  fun_induction scan (fun _ => []) (fun name => [name]) text with
  | case1 => cases member
  | case2 rest inductionHypothesis =>
      rcases List.mem_append.mp member with here | later
      · rw [List.mem_singleton.mp here] at inName
        exact List.mem_takeWhile_imp inName
      · exact inductionHypothesis later
  | case3 d rest notDollar inductionHypothesis => exact inductionHypothesis member

/-- A scan that makes nothing of characters makes nothing of blanks. -/
theorem names_append_blanks
    (front : Text)
    {back : Text}
    (blank : Text.allBlank back = true) :
    names (front ++ back) = names front := by
  rw [names, scan_append_blanks front blank, flatMap_nothing, List.append_nil]
  rfl

/-- Blanks in front bring no name. -/
theorem names_blanks_append
    {front : Text}
    (blank : Text.allBlank front = true)
    (back : Text) :
    names (front ++ back) = names back := by
  rw [names, scan_blanks_append blank, flatMap_nothing]
  rfl

/-- Taking the indentation away takes no name away. -/
theorem names_normalLine
    {line : Text}
    {indent : Nat}
    (within : Text.allBlank line = false → indent ≤ Text.leadingBlanks line) :
    names (normalLine indent line) = names line :=
  apply_normalLine (fun back blank => names_blanks_append blank back)
    (fun front _ blank => names_append_blanks front blank) within

/-- The names of joined lines are those of the lines. -/
theorem names_joinLines
    (rows : List Text) :
    names (Text.joinLines rows) = rows.flatMap names := by
  induction rows with
  | nil => exact scan_nil
  | cons line rest inductionHypothesis =>
      cases rest with
      | nil => simp [Text.joinLines]
      | cons next more =>
          rw [Text.joinLines, names, scan_append_feed, List.flatMap_cons, ← inductionHypothesis]
          rfl

/-- The names of the pieces of a line are those of the line. -/
theorem filterMap_name?_lineParts
    (line : Text) :
    ((lineParts true line).map Piece.part).filterMap Piece.name? = names line := by
  rw [List.filterMap_map, ← filterMap_name?_parts]
  rfl

/-- The names of the pieces of several lines are those of the lines. -/
theorem filterMap_name?_brokenPieces
    (lines : List Text) :
    (brokenPieces true lines).filterMap Piece.name? = lines.flatMap names := by
  induction lines with
  | nil => rfl
  | cons line rest inductionHypothesis =>
      have shape : brokenPieces true (line :: rest) =
          .newline :: (lineParts true line).map .part ++ brokenPieces true rest := rfl
      rw [shape, List.filterMap_append, inductionHypothesis, List.flatMap_cons,
        ← filterMap_name?_lineParts]
      rfl

/--
Cutting a template line by line, without the indentation, finds the same names in the same
order as reading the template as it is.
-/
theorem filterMap_name?_pieces
    (template : Text) :
    (pieces true template).filterMap Piece.name? = names template := by
  have perLine :
      (pieces true template).filterMap Piece.name? = (dedent template).flatMap names := by
    unfold pieces
    cases dedent template with
    | nil => rfl
    | cons first rest =>
        rw [List.filterMap_append, filterMap_name?_lineParts, filterMap_name?_brokenPieces]
        rfl
  rw [perLine, dedent, List.flatMap_map]
  calc
    (Text.lines template).flatMap (fun line => names (dedentLine (minIndent template) line)) =
        (Text.lines template).flatMap names := by
      simp only [List.flatMap_def]
      congr 1
      apply List.map_congr_left
      intro line member
      rw [dedentLine_eq_normalLine member]
      exact names_normalLine (minIndent_le member)
    _ = names (Text.joinLines (Text.lines template)) := (names_joinLines _).symm
    _ = names template := by rw [Text.joinLines_lines]

end Splice.Template
