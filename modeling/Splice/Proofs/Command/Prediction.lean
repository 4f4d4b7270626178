import Splice.Command.Run
import Splice.Proofs.Render.DebugText
import Splice.Proofs.Template.Binding
import Splice.Proofs.Template.SoundDocuments

namespace Splice

/-!
# Checking predicts rendering

Checking looks for placeholders in the template as it is and compares sets of names;
rendering cuts the template line by line, without the indentation, and stops at the first
name that it has no argument for.  Both see the same names in the same order, and an
argument that is a text never fails for another reason.  So what checking says of the names
is what rendering does with the arguments.
-/

/-- A text without an escape character loses nothing. -/
theorem Style.withoutEscapes_eq_self
    {t : Text}
    (plain : escape ∉ t) :
    withoutEscapes t = t := by
  unfold withoutEscapes
  induction t with
  | nil => rfl
  | cons c rest inductionHypothesis =>
      simp only [List.mem_cons, not_or] at plain
      simp [withoutEscapesAfter, Ne.symm plain.1, Pending.source, inductionHypothesis plain.2]

namespace Command

open Template (placeholders unbound?)

/-- A command that ends by itself with an exit code. -/
def Outcome.Exits (outcome : Outcome) (code : Nat) : Prop :=
  ∃ output errors, outcome = .ended code output errors

namespace Console

variable (console : Console)

theorem output_record
    (source : String)
    (level : Level)
    (message : String)
    (data : Value.Entries Empty) :
    (console.record source level message data).output = console.output := by
  unfold record
  dsimp only
  split <;> rfl

theorem exits_exit (code : Nat) : (console.exit code).Exits code :=
  ⟨_, _, rfl⟩

/-- Writing lines only adds to the output. -/
theorem output_lines
    (written : Text → Text)
    (names : List Text) :
    ∃ more,
      (names.foldl (fun console name => console.line (written name)) console).output =
        console.output ++ more := by
  induction names generalizing console with
  | nil => exact ⟨[], by simp⟩
  | cons name rest inductionHypothesis =>
      rcases inductionHypothesis (console.line (written name)) with ⟨more, shape⟩
      refine ⟨Style.withoutEscapes (written name ++ ['\n']) ++ more, ?_⟩
      rw [List.foldl_cons, shape]
      simp [line, put]

/-- Warn that arguments are never referenced. -/
def warn (names : List Text) : Console :=
  names.foldl (fun console name =>
    console.say Level.warning s!"Argument never referenced: {String.ofList name}") console

theorem output_warn (names : List Text) : (console.warn names).output = console.output := by
  unfold warn
  induction names generalizing console with
  | nil => rfl
  | cons name rest inductionHypothesis =>
      rw [List.foldl_cons, inductionHypothesis]
      exact console.output_record _ _ _ _

end Console

/-- The template that an operand stands for, if it can be read. -/
def source? (surroundings : Surroundings) (operand : Text) : Option Source :=
  if operand = inputMark then
    (Entry.text? surroundings.input).map fun text => ⟨"<stdin>".toList, text⟩
  else
    let path := Path.ofText operand
    match surroundings.workspace.at? path with
    | some (.file content) => (Entry.text? content).map fun text => ⟨path.text, text⟩
    | _ => none

/-- A template that can be read is handed on. -/
theorem withSource_of_source?
    {surroundings : Surroundings}
    {operand : Text}
    {source : Source}
    (readable : source? surroundings operand = some source)
    (console : Console)
    (go : Source → Outcome) :
    withSource surroundings operand console go = go source := by
  unfold source? at readable
  unfold withSource
  split at readable
  · next isInput =>
      rcases Option.map_eq_some_iff.mp readable with ⟨text, decoded, rfl⟩
      simp only [isInput, ↓reduceIte, decoded]
  · next isPath =>
      dsimp only at readable
      split at readable
      · next content found =>
          rcases Option.map_eq_some_iff.mp readable with ⟨text, decoded, rfl⟩
          simp only [isPath, ↓reduceIte, found, decoded]
      · cases readable

section Assignments

variable {pairs : List (Text × Text)}

def assignment (pair : Text × Text) : Text :=
  pair.1 ++ '=' :: pair.2

/-- The first equals sign ends the name, so the value may hold others. -/
theorem readAssignment_assignment
    {pair : Text × Text}
    (named : pair.1 ≠ [] ∧ '=' ∉ pair.1) :
    readAssignment (assignment pair) = .ok pair := by
  rcases pair with ⟨name, value⟩
  rcases named with ⟨notEmpty, noSign⟩
  have inName : ∀ c ∈ name, (c != '=') = true := by
    intro c member
    rw [bne_iff_ne]
    rintro rfl
    exact noSign member
  rcases List.exists_cons_of_ne_nil notEmpty with ⟨c, more, rfl⟩
  have taken : ((c :: more) ++ '=' :: value).takeWhile (· != '=') = c :: more := by
    rw [List.takeWhile_append_of_pos inName]
    simp
  have dropped : ((c :: more) ++ '=' :: value).dropWhile (· != '=') = '=' :: value := by
    rw [List.dropWhile_append_of_pos inName]
    simp
  simp only [assignment, readAssignment, taken, dropped]

/-- Assignments whose names are not empty and hold no equals sign are read back as their pairs. -/
theorem mapM_readAssignment
    (named : ∀ pair ∈ pairs, pair.1 ≠ [] ∧ '=' ∉ pair.1) :
    (pairs.map assignment).mapM readAssignment = .ok pairs := by
  induction pairs with
  | nil => rfl
  | cons pair rest inductionHypothesis =>
      have tail := inductionHypothesis fun other member =>
        named other (List.mem_cons_of_mem _ member)
      rw [List.map_cons, List.mapM_cons, readAssignment_assignment (named pair List.mem_cons_self),
        tail]
      rfl

/-- The arguments that assignments give to a template. -/
def textArguments (pairs : List (Text × Text)) : List (Text × Value Document) :=
  pairs.map fun pair => (pair.1, .text pair.2)

theorem map_fst_textArguments
    (pairs : List (Text × Text)) :
    (textArguments pairs).map Prod.fst = pairs.map Prod.fst := by
  simp [textArguments]

/-- Every argument of a command is a text. -/
theorem text_of_lookup_textArguments
    {name : Text}
    {value : Value Document}
    (given : (textArguments pairs).lookup name = some value) :
    ∃ text, value = .text text := by
  rcases List.lookup_eq_some_iff.mp given with ⟨before, after, shape, _⟩
  have member : (name, value) ∈ textArguments pairs := by simp [shape]
  rcases List.mem_map.mp member with ⟨pair, _, same⟩
  cases same
  exact ⟨pair.2, rfl⟩

end Assignments

/-- The place that a template of a command is compiled at. -/
def Source.site (source : Source) : Token :=
  ⟨1, source.name, 1, 1⟩

def Source.compile (source : Source) (pairs : List (Text × Text)) :
    Except Template.Fault Template.Compilation :=
  Template.compile source.text (some source.site) (some (textArguments pairs))

section

variable (source : Source) (pairs : List (Text × Text))

/-- Texts as arguments leave one reason for a template not to compile. -/
theorem Source.compile_outcome :
    match unbound? (pairs.map Prod.fst) (Template.names source.text) with
    | none => ∃ compilation, source.compile pairs = .ok compilation ∧
        compilation.unused =
          (pairs.map Prod.fst).eraseDups.filter
            fun name => !(Template.names source.text).contains name
    | some name =>
        source.compile pairs = .error (.unresolved name (some source.text) (some source.site)) := by
  have binds : ∃ binding, Template.bindAfter [] (textArguments pairs) = .ok binding := by
    apply Template.exists_bindAfter
    intro name value _ given
    rcases text_of_lookup_textArguments given with ⟨text, rfl⟩
    exact ⟨_, rfl⟩
  rcases binds with ⟨binding, bound⟩
  have outcome := Template.compile_of_bindAfter bound source.text (some source.site)
  have keys : binding.map Prod.fst = (pairs.map Prod.fst).eraseDups := by
    rw [Template.map_fst_bindAfter bound, map_fst_textArguments]
    simp
  rw [map_fst_textArguments, keys] at outcome
  cases lacks : unbound? (pairs.map Prod.fst) (Template.names source.text) with
  | none =>
      rw [lacks] at outcome
      rcases outcome with ⟨operations, compiled⟩
      exact ⟨_, compiled, rfl⟩
  | some name =>
      rw [lacks] at outcome
      exact outcome

/-- A compiled command's references resolve. -/
theorem Source.resolves_of_compile
    {source : Source}
    {pairs : List (Text × Text)}
    {compilation : Template.Compilation}
    (compiled : source.compile pairs = .ok compilation) :
    compilation.document.Resolves := by
  have sound := Template.sound_of_compile compiled fun same member converted => by
    cases same
    rcases List.mem_map.mp member with ⟨pair, _, isPair⟩
    cases isPair
    cases converted
    exact Document.sound_ofText pair.2
  exact sound.resolves

/-- A document whose references resolve is rendered, with colours or without. -/
theorem exists_rendered
    (settings : Settings)
    (debug : Bool)
    {document : Document}
    (resolves : document.Resolves) :
    ∃ text, (rendered settings debug document).1 = .ok text := by
  cases debug with
  | false => exact ⟨_, Render.plain_of_layout settings.spacing resolves rfl⟩
  | true =>
      rcases Render.debug_of_resolves settings.spacing settings.tracing {} {} resolves with
        ⟨segments, drawn⟩
      simp only [rendered, ↓reduceIte, drawn]
      exact ⟨_, rfl⟩

end

section

variable
  {surroundings : Surroundings} {operand : Text} {source : Source} {pairs : List (Text × Text)}
  (readable : source? surroundings operand = some source)
  (named : ∀ pair ∈ pairs, pair.1 ≠ [] ∧ '=' ∉ pair.1)
  (settings : Settings) (debug : Bool) (console : Console)

include readable named in
/-- A template that does not compile makes rendering fail with the compiler's message. -/
theorem render_eq_fail
    {fault : Template.Fault}
    (refused : source.compile pairs = .error fault) :
    render surroundings settings operand (pairs.map assignment) debug console =
      console.fail fault.message := by
  have compiled :
      Template.compile source.text (some source.site) (some (textArguments pairs)) =
        .error fault := refused
  unfold render
  rw [withSource_of_source? readable, mapM_readAssignment named]
  simp only [Source.site, textArguments] at compiled
  simp only [compiled]

include readable named in
/-- A template that compiles is rendered with exit code 0. -/
theorem exits_render
    {compilation : Template.Compilation}
    (compiled : source.compile pairs = .ok compilation) :
    (render surroundings settings operand (pairs.map assignment) debug console).Exits 0 := by
  rcases exists_rendered settings debug (Source.resolves_of_compile compiled) with ⟨text, made⟩
  have isCompiled :
      Template.compile source.text (some source.site) (some (textArguments pairs)) =
        .ok compilation := compiled
  unfold render
  rw [withSource_of_source? readable, mapM_readAssignment named]
  simp only [Source.site, textArguments] at isCompiled
  simp only [isCompiled, made]
  exact Console.exits_exit _ 0

/-- The names that checking misses, in the order in which it prints them. -/
def missing (source : Source) (given : List Text) : List Text :=
  (placeholders source.text).filter fun name => !given.contains name

/-- The first missing name is the one that rendering stops at. -/
theorem head?_missing
    (source : Source)
    (given : List Text) :
    (missing source given).head? = unbound? given (Template.names source.text) := by
  rw [missing, List.head?_filter, Template.placeholders_eq_eraseDups, find?_eraseDups]
  rfl

/-- A line that names what is missing is printed as it is. -/
theorem output_line_missing
    (console : Console)
    {template name : Text}
    (member : name ∈ Template.names template) :
    (console.line ("  missing: $".toList ++ name)).output =
      console.output ++ ("  missing: $".toList ++ name ++ ['\n']) := by
  have plain : Style.escape ∉ "  missing: $".toList ++ name ++ ['\n'] := by
    have inName : Style.escape ∉ name := by
      intro inName
      exact absurd (Template.isNameChar_of_mem_names member inName) (by decide)
    simp only [List.mem_append, not_or]
    exact ⟨⟨by decide, inName⟩, by decide⟩
  unfold Console.line Console.put
  rw [Style.withoutEscapes_eq_self plain]

end

section

variable
  {surroundings : Surroundings} {operand : Text} {source : Source}
  (readable : source? surroundings operand = some source)
  {given : List Text} (console : Console)

include readable

/-- When names are missing, checking prints the first of them right behind its listing. -/
theorem check_of_missing
    {name : Text}
    {others : List Text}
    (lacks : missing source given = name :: others) :
    ∃ more errors,
      check surroundings operand (some given) console =
        .ended 1
          ((list source (placeholders source.text) console).output ++
            ("  missing: $".toList ++ name ++ '\n' :: more))
          errors := by
  have inTemplate : name ∈ Template.names source.text := by
    have member : name ∈ missing source given := by
      rw [lacks]
      exact List.mem_cons_self
    exact Template.mem_placeholders_iff.mp (List.mem_filter.mp member).1
  let listed := list source (placeholders source.text) console
  let unused :=
    (given.eraseDups.filter fun other => !(placeholders source.text).contains other).mergeSort
      inOrder
  rcases ((listed.warn unused).line ("  missing: $".toList ++ name)).output_lines
    (fun name => "  missing: $".toList ++ name) others with ⟨more, told⟩
  rw [output_line_missing _ inTemplate, Console.output_warn] at told
  unfold missing at lacks
  unfold check
  rw [withSource_of_source? readable]
  simp only [compare, lacks, List.isEmpty_cons, Bool.false_eq_true, ↓reduceIte, List.foldl_cons]
  have shape :
      listed.output ++ ("  missing: $".toList ++ name ++ ['\n']) ++ more =
        listed.output ++ ("  missing: $".toList ++ name ++ '\n' :: more) := by
    simp
  exact ⟨more, _, congrArg (Outcome.ended 1 · _)
    ((Console.output_record _ _ _ _ _).trans (told.trans shape))⟩

/-- When nothing is missing, checking warns of the names that the template does not hold. -/
theorem check_of_nothing_missing
    (complete : missing source given = []) :
    ∃ unused,
      unused.Perm (given.eraseDups.filter fun name =>
        !(placeholders source.text).contains name) ∧
      check surroundings operand (some given) console =
        (((list source (placeholders source.text) console).warn unused).line
          "All placeholders resolved".toList).exit 0 := by
  unfold check
  rw [withSource_of_source? readable]
  unfold missing at complete
  refine ⟨_, List.mergeSort_perm _ inOrder, ?_⟩
  simp only [compare, complete, List.isEmpty_nil, ↓reduceIte]
  rfl

end

/--
Checking a template with the names of some assignments predicts what rendering it with the
assignments does, drawn or not.  Both succeed or both fail; the first name that checking
misses is the one in the fault of rendering; and when nothing is missing, checking warns of
the arguments that compiling reports as unused.
-/
theorem check_predicts_render
    {surroundings : Surroundings}
    {operand : Text}
    {source : Source}
    (readable : source? surroundings operand = some source)
    {pairs : List (Text × Text)}
    (named : ∀ pair ∈ pairs, pair.1 ≠ [] ∧ '=' ∉ pair.1)
    (settings : Settings)
    (debug : Bool)
    (checkConsole renderConsole : Console) :
    let checked :=
      runOwn surroundings settings (.check operand (some (pairs.map Prod.fst))) checkConsole
    let rendered :=
      runOwn surroundings settings (.render operand (pairs.map assignment) debug) renderConsole
    let listed := list source (placeholders source.text) checkConsole
    (checked.Exits 0 ↔ rendered.Exits 0) ∧
    (¬ rendered.Exits 0 → ∃ name more errors,
      checked =
        .ended 1 (listed.output ++ ("  missing: $".toList ++ name ++ '\n' :: more)) errors ∧
      source.compile pairs = .error (.unresolved name (some source.text) (some source.site)) ∧
      rendered =
        renderConsole.fail
          (Template.Fault.unresolved name (some source.text) (some source.site)).message) ∧
    (rendered.Exits 0 → ∃ compilation unused,
      source.compile pairs = .ok compilation ∧
      unused.Perm compilation.unused ∧
      checked = ((listed.warn unused).line "All placeholders resolved".toList).exit 0) := by
  intro checked rendered listed
  have outcome := source.compile_outcome pairs
  have first := head?_missing source (pairs.map Prod.fst)
  cases lacks : unbound? (pairs.map Prod.fst) (Template.names source.text) with
  | some name =>
      rw [lacks] at outcome first
      rcases List.head?_eq_some_iff.mp first with ⟨others, isMissing⟩
      rcases check_of_missing readable checkConsole isMissing with ⟨more, errors, isChecked⟩
      have isRendered : rendered = _ :=
        render_eq_fail readable named settings debug renderConsole outcome
      have checkedFails : ¬ checked.Exits 0 := by
        rintro ⟨output, problems, same⟩
        cases isChecked.symm.trans same
      have renderedFails : ¬ rendered.Exits 0 := by
        rintro ⟨output, problems, same⟩
        cases isRendered.symm.trans same
      exact ⟨iff_of_false checkedFails renderedFails,
        fun _ => ⟨name, more, errors, isChecked, outcome, isRendered⟩,
        fun exits => (renderedFails exits).elim⟩
  | none =>
      rw [lacks] at outcome first
      rcases outcome with ⟨compilation, compiled, isUnused⟩
      have complete := List.head?_eq_none_iff.mp first
      rcases check_of_nothing_missing readable checkConsole complete with
        ⟨unused, warned, isChecked⟩
      have exits : rendered.Exits 0 :=
        exits_render readable named settings debug renderConsole compiled
      have sameUnused : unused.Perm compilation.unused := by
        rw [isUnused]
        simpa only [List.contains_eq_mem, Template.mem_placeholders_iff] using warned
      refine ⟨iff_of_true ?_ exits, fun fails => (fails exits).elim,
        fun _ => ⟨compilation, unused, compiled, sameUnused, isChecked⟩⟩
      have checkedExits := Console.exits_exit
        (((list source (placeholders source.text) checkConsole).warn unused).line
          "All placeholders resolved".toList) 0
      rw [← isChecked] at checkedExits
      exact checkedExits

/-- Surroundings in which a template with two names is typed. -/
def typing : Surroundings where
  workspace := ⟨[], fun _ => none⟩
  environment := []
  input := "  $b\n$a$b\n".toUTF8.toList
  now := .nan

def typed : Source :=
  ⟨"<stdin>".toList, "  $b\n$a$b\n".toList⟩

/-- The console of a command without switches, at the start of 1970. -/
def openConsole : Console :=
  { recorder := Recorder.configure ⟨false, false, false⟩, now := .ofInt 0 }

theorem source?_typing : source? typing inputMark = some typed := by
  have read : Entry.text? typing.input = some "  $b\n$a$b\n".toList := by decide +kernel
  simp only [source?, ↓reduceIte, read]
  rfl

/-- Checking the typed template names both placeholders on standard output and logs nothing. -/
theorem list_typed :
    (list typed (placeholders typed.text) openConsole).output =
        "<stdin>: 2 placeholder(s)\n  $b\n  $a\n".toList ∧
      (list typed (placeholders typed.text) openConsole).errors = [] := by
  decide +kernel

/--
A missing name is reported on standard error with its place, and nothing goes to standard
output.
-/
theorem fail_typed :
    openConsole.fail
        (Template.Fault.unresolved "a".toList (some typed.text) (some typed.site)).message =
      .ended 1 []
        "[ERROR] No argument provided for substitution $a (template at <stdin>:1:1)\n".toList := by
  have silent : (openConsole.say Level.error
      (Template.Fault.unresolved "a".toList (some typed.text) (some typed.site)).message).output =
        [] :=
    openConsole.output_record _ _ _ _
  have told : (openConsole.say Level.error
      (Template.Fault.unresolved "a".toList (some typed.text) (some typed.site)).message).errors =
        "[ERROR] No argument provided for substitution $a (template at <stdin>:1:1)\n".toList := by
    decide +kernel
  simp only [Console.fail, Console.exit, silent, told]

/-- What checking writes when nothing is missing and one name is never referenced. -/
theorem warn_typed :
    (((list typed (placeholders typed.text) openConsole).warn ["c".toList]).line
        "All placeholders resolved".toList).exit 0 =
      .ended 0
        "<stdin>: 2 placeholder(s)\n  $b\n  $a\nAll placeholders resolved\n".toList
        "[WARNING] Argument never referenced: c\n".toList := by
  have written :
      (((list typed (placeholders typed.text) openConsole).warn ["c".toList]).line
          "All placeholders resolved".toList).output =
        "<stdin>: 2 placeholder(s)\n  $b\n  $a\nAll placeholders resolved\n".toList ∧
      (((list typed (placeholders typed.text) openConsole).warn ["c".toList]).line
          "All placeholders resolved".toList).errors =
        "[WARNING] Argument never referenced: c\n".toList := by
    decide +kernel
  simp only [Console.exit, written]

/--
With one of the two names, checking prints the other one as missing, and rendering says that
it lacks it; with both of them and a third one checking finds nothing missing and warns of the
third, though one name is given twice and a value is strange.
-/
theorem check_predicts_render_typed :
    (∃ more errors,
      runOwn typing .standard (.check inputMark (some ["b".toList])) openConsole =
        .ended 1
          ("<stdin>: 2 placeholder(s)\n  $b\n  $a\n".toList ++
            ("  missing: $".toList ++ "a".toList ++ '\n' :: more)) errors) ∧
    runOwn typing .standard (.render inputMark ["b=1".toList] false) openConsole =
      .ended 1 []
        "[ERROR] No argument provided for substitution $a (template at <stdin>:1:1)\n".toList ∧
    runOwn typing .standard
        (.check inputMark (some ["c".toList, "b".toList, "a".toList, "b".toList])) openConsole =
      .ended 0
        "<stdin>: 2 placeholder(s)\n  $b\n  $a\nAll placeholders resolved\n".toList
        "[WARNING] Argument never referenced: c\n".toList := by
  have lacking : ∀ pair ∈ [("b".toList, "1".toList)], pair.1 ≠ [] ∧ '=' ∉ pair.1 := by
    decide
  have refused :
      typed.compile [("b".toList, "1".toList)] =
        .error (.unresolved "a".toList (some typed.text) (some typed.site)) := by
    rfl
  have notZero :
      ¬ (runOwn typing .standard
        (.render inputMark ([("b".toList, "1".toList)].map assignment) false)
        openConsole).Exits 0 := by
    rintro ⟨output, errors, same⟩
    have fails := render_eq_fail source?_typing lacking .standard false openConsole refused
    cases fails.symm.trans same
  rcases (check_predicts_render source?_typing lacking .standard false openConsole
    openConsole).2.1 notZero with ⟨name, more, errors, isChecked, isRefused, isRendered⟩
  rw [refused] at isRefused
  cases isRefused
  rw [list_typed.1] at isChecked
  have complete :
      ∀ pair ∈ [("c".toList, []), ("b".toList, "=\n".toList), ("a".toList, "$b".toList),
        ("b".toList, [])], pair.1 ≠ [] ∧ '=' ∉ pair.1 := by
    decide
  have zero :
      (runOwn typing .standard (.render inputMark
        ([("c".toList, []), ("b".toList, "=\n".toList), ("a".toList, "$b".toList),
          ("b".toList, [])].map assignment) true) openConsole).Exits 0 :=
    exits_render source?_typing complete .standard true openConsole rfl
  rcases (check_predicts_render source?_typing complete .standard true openConsole
    openConsole).2.2 zero with ⟨compilation, unused, compiled, isUnused, warned⟩
  have onlyThird : compilation.unused = ["c".toList] := by
    cases compiled
    rfl
  rw [onlyThird, List.perm_singleton] at isUnused
  rw [isUnused, warn_typed] at warned
  exact ⟨⟨more, errors, isChecked⟩, isRendered.trans fail_typed, warned⟩

end Command

end Splice
