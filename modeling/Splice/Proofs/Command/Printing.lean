import Splice.Proofs.Command.Prediction
import Splice.Proofs.Style.Sequences

namespace Splice.Command

/-!
# What rendering prints

A command that renders a template without drawing it prints the plain text of the compiled
document, closed by a line feed.  The console takes the escape sequences out of what it
prints, whoever put them in: a template and its arguments may hold some as well.  So
`prints_rendered` says that the text is printed as it is when it holds no escape sequence,
and what is missing otherwise.
-/

/-- A text with a line feed behind it, unless it ends with one. -/
def closed (text : Text) : Text :=
  if text.getLast? = some '\n' then text else text ++ ['\n']

theorem escapeFree_closed_iff
    {text : Text} :
    Style.EscapeFree (closed text) ↔ Style.EscapeFree text := by
  unfold closed
  split
  · exact Iff.rfl
  · exact Style.escapeFree_append_feed_iff

namespace Console

variable (console : Console)

theorem output_say
    (level : Level)
    (message : String) :
    (console.say level message).output = console.output :=
  console.output_record _ _ _ _

theorem output_notes
    (found : List Note) :
    (console.notes found).output = console.output := by
  unfold notes
  induction found generalizing console with
  | nil => rfl
  | cons note rest inductionHypothesis =>
      rw [List.foldl_cons, inductionHypothesis]
      exact console.output_record _ _ _ _

end Console

section

variable {surroundings : Surroundings} {operand : Text} {console : Console} {output errors : Text}

/-- A command that ends well has read its template and gone on with it. -/
theorem exists_source_of_ended
    {go : Source → Outcome}
    (ends : withSource surroundings operand console go = .ended 0 output errors) :
    ∃ source, source? surroundings operand = some source ∧ go source = .ended 0 output errors := by
  cases readable : source? surroundings operand with
  | some source =>
      rw [withSource_of_source? readable] at ends
      exact ⟨source, rfl, ends⟩
  | none =>
      unfold withSource at ends
      unfold source? at readable
      split at readable
      · next isInput =>
          rw [Option.map_eq_none_iff] at readable
          simp only [isInput, ↓reduceIte, readable] at ends
          cases ends
      · next isPath =>
          simp only [isPath, ↓reduceIte] at ends
          dsimp only at readable
          split at readable
          · next content found =>
              rw [Option.map_eq_none_iff] at readable
              simp only [found, readable] at ends
              cases ends
          · next noFile =>
              split at ends
              · next content found => exact (noFile content found).elim
              · cases ends

/-- A command whose configuration cannot be used does not end well. -/
theorem refuse_ne_ended
    (fault : SourceFault) :
    refuse fault console ≠ .ended 0 output errors := by
  intro ends
  unfold refuse at ends
  split at ends
  · cases ends
  · cases ends
  · split at ends <;> cases ends
  · cases ends

/-- What a command that renders a template without drawing it has read, compiled and printed. -/
theorem printed_of_render
    {settings : Settings}
    {assignments : List Text}
    (ends : render surroundings settings operand assignments false console =
      .ended 0 output errors) :
    ∃ source pairs compilation text,
      source? surroundings operand = some source ∧
      assignments.mapM readAssignment = .ok pairs ∧
      source.compile pairs = .ok compilation ∧
      Render.plain settings.spacing compilation.document = .ok text ∧
      output = console.output ++ Style.withoutEscapes (closed text) := by
  rcases exists_source_of_ended ends with ⟨source, readable, ends⟩
  split at ends
  · cases ends
  · next pairs isPairs =>
      dsimp only at ends
      split at ends
      · cases ends
      · next compilation compiled =>
          split at ends
          · cases ends
          · next text isText =>
              cases ends
              refine ⟨source, pairs, compilation, text, readable, isPairs, compiled, isText, ?_⟩
              simp only [Console.put, Console.output_say, Console.output_notes, closed, Bool.false_eq_true,
                ↓reduceIte]

/-- A command that reads and compiles its template prints the plain text, without sequences. -/
theorem render_of_plain
    (console : Console)
    {settings : Settings}
    {assignments : List Text}
    {source : Source}
    {pairs : List (Text × Text)}
    {compilation : Template.Compilation}
    {text : Text}
    (readable : source? surroundings operand = some source)
    (isPairs : assignments.mapM readAssignment = .ok pairs)
    (compiled : source.compile pairs = .ok compilation)
    (isText : Render.plain settings.spacing compilation.document = .ok text) :
    ∃ errors,
      render surroundings settings operand assignments false console =
        .ended 0 (console.output ++ Style.withoutEscapes (closed text)) errors := by
  have isCompiled :
      Template.compile source.text (some source.site) (some (textArguments pairs)) =
        .ok compilation := compiled
  simp only [Source.site, textArguments] at isCompiled
  unfold render
  rw [withSource_of_source? readable]
  simp only [isPairs, isCompiled, rendered, isText, Bool.false_eq_true, ↓reduceIte, Console.exit,
    Console.put, Console.output_say, Console.output_notes, closed]
  exact ⟨_, rfl⟩

end

/--
Rendering without drawing prints the plain text of the compiled document, closed by a line
feed, and without the escape sequences that it holds.  It is printed as it is exactly when
it holds none.
-/
theorem prints_rendered
    {surroundings : Surroundings}
    {words : List Text}
    {given : Given GeneralSwitch}
    {name : Name}
    {rest : List Text}
    (runs : readGeneral words = .run given name rest)
    {operand : Text}
    {assignments : List Text}
    (renders : readOwn name rest = .render operand assignments false)
    {output errors : Text}
    (ends : run surroundings words = .ended 0 output errors) :
    ∃ config loaded source pairs compilation text,
      chosenConfig? surroundings.workspace given = some config ∧
      surroundings.workspace.load surroundings.environment config true = .ok loaded ∧
      source? surroundings operand = some source ∧
      assignments.mapM readAssignment = .ok pairs ∧
      source.compile pairs = .ok compilation ∧
      Render.plain loaded.settings.spacing compilation.document = .ok text ∧
      Style.Stripped (closed text) output ∧
      (output = closed text ↔ Style.EscapeFree text) := by
  unfold run at ends
  rw [runs] at ends
  dsimp only at ends
  split at ends
  · cases ends
  · next config chosen =>
      split at ends
      · next fault notLoaded => exact (refuse_ne_ended fault ends).elim
      · next loaded isLoaded =>
          rw [renders] at ends
          rcases printed_of_render ends with
            ⟨source, pairs, compilation, text, readable, isPairs, compiled, isText, printed⟩
          have isOutput : output = Style.withoutEscapes (closed text) := by
            rw [printed]
            split
            · rfl
            · rw [Console.output_say]
              rfl
          have stripped : Style.Stripped (closed text) output := Style.stripped_iff.mpr isOutput.symm
          exact ⟨config, loaded, source, pairs, compilation, text, chosen, isLoaded, readable,
            isPairs, compiled, isText, stripped,
            stripped.eq_self_iff.trans escapeFree_closed_iff⟩

/-- The command line that renders what is typed with two arguments. -/
def renderTyped (value : Text) : List Text :=
  ["render".toList, inputMark, "-a".toList, "a=".toList ++ value, "--arg".toList, "b=2".toList]

/-- A value for one name, and a digit for the other. -/
def typedPairs (value : Text) : List (Text × Text) :=
  [("a".toList, value), ("b".toList, "2".toList)]

/-- The plain text of what is typed with a value, if there is one. -/
def plainTyped? (value : Text) : Option Text :=
  match typed.compile (typedPairs value) with
  | .ok compilation => (Render.plain Settings.standard.spacing compilation.document).toOption
  | .error _ => none

theorem exists_of_plainTyped
    {value text : Text}
    (isPlain : plainTyped? value = some text) :
    ∃ compilation,
      typed.compile (typedPairs value) = .ok compilation ∧
      Render.plain Settings.standard.spacing compilation.document = .ok text := by
  unfold plainTyped? at isPlain
  split at isPlain
  · next compilation compiled =>
      refine ⟨compilation, compiled, ?_⟩
      cases made : Render.plain Settings.standard.spacing compilation.document with
      | ok other =>
          rw [made] at isPlain
          cases isPlain
          rfl
      | error fault =>
          rw [made] at isPlain
          cases isPlain
  · cases isPlain

theorem run_renderTyped
    {value text : Text}
    (isPlain : plainTyped? value = some text) :
    ∃ errors,
      run typing (renderTyped value) = .ended 0 (Style.withoutEscapes (closed text)) errors := by
  rcases exists_of_plainTyped isPlain with ⟨compilation, compiled, isText⟩
  have isPairs : ["a=".toList ++ value, "b=2".toList].mapM readAssignment =
      .ok (typedPairs value) := rfl
  let console : Console := { recorder := Recorder.configure ⟨false, false, false⟩, now := .nan }
  exact render_of_plain console source?_typing isPairs compiled isText

theorem prints_rendered_typed :
    ∃ errors,
      run typing (renderTyped "1".toList) = .ended 0 "  2\n12\n".toList errors ∧
      ∃ compilation text,
        typed.compile (typedPairs "1".toList) = .ok compilation ∧
        Render.plain Settings.standard.spacing compilation.document = .ok text ∧
        Style.Stripped (closed text) "  2\n12\n".toList := by
  have isPlain : plainTyped? "1".toList = some "  2\n12\n".toList := by decide +kernel
  rcases run_renderTyped isPlain with ⟨errors, ends⟩
  have printed : Style.withoutEscapes (closed "  2\n12\n".toList) = "  2\n12\n".toList := by
    decide +kernel
  rw [printed] at ends
  refine ⟨errors, ends, ?_⟩
  rcases prints_rendered rfl rfl ends with
    ⟨config, loaded, source, pairs, compilation, text, chosen, isLoaded, readable, isPairs,
      compiled, isText, stripped, _⟩
  cases chosen
  cases isLoaded
  cases source?_typing.symm.trans readable
  cases isPairs
  exact ⟨compilation, text, compiled, isText, stripped⟩

/-- An argument that begins with an escape sequence is printed without it. -/
theorem run_renderEscaped :
    plainTyped? (Style.escape :: "[1m1".toList) =
      some ("  2\n".toList ++ Style.escape :: "[1m12\n".toList) ∧
    ∃ errors,
      run typing (renderTyped (Style.escape :: "[1m1".toList)) =
        .ended 0 "  2\n12\n".toList errors := by
  have isPlain :
      plainTyped? (Style.escape :: "[1m1".toList) =
        some ("  2\n".toList ++ Style.escape :: "[1m12\n".toList) := by
    decide +kernel
  have printed :
      Style.withoutEscapes (closed ("  2\n".toList ++ Style.escape :: "[1m12\n".toList)) =
        "  2\n12\n".toList := by
    decide +kernel
  rcases run_renderTyped isPlain with ⟨errors, ends⟩
  rw [printed] at ends
  exact ⟨isPlain, errors, ends⟩

end Splice.Command
