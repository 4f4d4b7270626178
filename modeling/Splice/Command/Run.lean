import Splice.Command.Console
import Splice.Command.Request
import Splice.Render.Ansi
import Splice.Render.Plain
import Splice.Template.Compile

namespace Splice.Command

/-!
# Running a command

Three commands: render a template with texts as arguments, check which
placeholders of a template have an argument, and show the palette.  Nothing is
written to a file.
-/

/-- The version of the program. -/
def version : String := "codeloom 0.1.0"

/-- The operand that stands for the standard input. -/
def inputMark : Text := ['-']

/-- A template with the name that it goes by. -/
structure Source where
  name : Text
  text : Text

/-- Go on with a template, if it can be read. -/
def withSource
    (surroundings : Surroundings)
    (operand : Text)
    (console : Console)
    (go : Source → Outcome) :
    Outcome :=
  let decoded (name : Text) (content : List UInt8) : Outcome :=
    match Entry.text? content with
    | some text => go ⟨name, text⟩
    | none => console.crash .encoding
  if operand = inputMark then decoded "<stdin>".toList surroundings.input
  else
    let path := Path.ofText operand
    match surroundings.workspace.at? path with
    | some (.file content) => decoded path.text content
    | _ => console.fail s!"Template not found: {String.ofList operand}"

/-- An assignment of a value to a name, which must not be empty. -/
def readAssignment (word : Text) : Except Text (Text × Text) :=
  match word.takeWhile (· != '='), word.dropWhile (· != '=') with
  | first :: name, _ :: value => .ok (first :: name, value)
  | _, _ => .error word

/-- The text of a rendered document, and what was noted meanwhile. -/
def rendered (settings : Settings) (debug : Bool) (document : Document) :
    Except Malformed Text × List Note :=
  if debug then
    let result := Render.debug settings.spacing settings.tracing {} {} document
    (result.segments.map fun segments =>
      (Render.ansi settings.tracing.system result.shelf segments).1, result.notes)
  else (Render.plain settings.spacing document, [])

/-- Render a template and print the result, with a line feed behind it if it does not end with one. -/
def render
    (surroundings : Surroundings)
    (settings : Settings)
    (operand : Text)
    (assignments : List Text)
    (debug : Bool)
    (console : Console) :
    Outcome :=
  withSource surroundings operand console fun source =>
    match assignments.mapM readAssignment with
    | .error word =>
        console.fail s!"Invalid argument {String.ofList (Text.quoted word)}, expected NAME=VALUE"
    | .ok pairs =>
        let site : Token := ⟨1, source.name, 1, 1⟩
        let arguments := pairs.map fun pair => (pair.1, Value.text pair.2)
        match Template.compile source.text (some site) (some arguments) with
        | .error fault => console.fail fault.message
        | .ok compilation =>
            let (text, notes) := rendered settings debug compilation.document
            let noted := (console.notes (Channel.compiler.notes (compilation.notes (some site)))).notes notes
            match text with
            | .error fault => noted.fail fault.message
            | .ok text =>
                let size := compilation.document.length
                let done := noted.say Level.debug
                  s!"Rendered {String.ofList source.name} ({size} operations)"
                let whole := if text.getLast? = some '\n' then text else text ++ ['\n']
                (done.put (if debug then whole else Style.withoutEscapes whole)).exit 0

/-- Whether a text comes before another in the order of code points, or is the same. -/
def inOrder : Text → Text → Bool
  | [], _ => true
  | _ :: _, [] => false
  | c :: rest, d :: others => if c = d then inOrder rest others else c.toNat < d.toNat

/-- The number of placeholders and their names, one a line. -/
def list (source : Source) (names : List Text) (console : Console) : Console :=
  let head := source.name ++ ": ".toList ++ natText names.length ++ " placeholder(s)".toList
  names.foldl (fun console name => console.line (' ' :: ' ' :: '$' :: name)) (console.line head)

/-- Compare the placeholders of a template with the names that will be given. -/
def compare (source : Source) (names given : List Text) (console : Console) : Outcome :=
  let missing := names.filter fun name => !given.contains name
  let unused := (given.eraseDups.filter fun name => !names.contains name).mergeSort inOrder
  let warned := unused.foldl (fun console name =>
    console.say Level.warning s!"Argument never referenced: {String.ofList name}") console
  if missing.isEmpty then (warned.line "All placeholders resolved".toList).exit 0
  else
    let told := missing.foldl (fun console name =>
      console.line ("  missing: $".toList ++ name)) warned
    let data : Value.Entries Empty := [
      (.text "template".toList, .text source.name),
      (.text "missing".toList, .list (missing.map .text))]
    (told.record Channel.command.name Level.error "Unresolved placeholders" data).exit 1

/-- List the placeholders of a template, and compare them with names, if some are given. -/
def check
    (surroundings : Surroundings)
    (operand : Text)
    (names : Option (List Text))
    (console : Console) :
    Outcome :=
  withSource surroundings operand console fun source =>
    let found := Template.placeholders source.text
    let listed := list source found console
    match names with
    | none => listed.exit 0
    | some given => compare source found given listed

/-- A number filled up with blanks in front to three characters. -/
def threeWide (n : Nat) : Text :=
  let digits := natText n
  List.replicate (3 - digits.length) ' ' ++ digits

/-- The line that shows one colour of the palette. -/
def paletteLine (system : ColourSystem) (index : Nat) : Text :=
  let label := ' ' :: threeWide index ++ "  colour ".toList ++
    threeWide (Palette.colourNumber index) ++ [' ']
  (Palette.style index).render system label ++ ['\n']

/-- Show the first colours of the palette, or one round of it. -/
def palette (settings : Settings) (count : Option Nat) (console : Console) : Outcome :=
  let indices := List.range (count.getD Palette.size)
  (console.put (indices.flatMap (paletteLine settings.tracing.system))).exit 0

/-- Run a command with its settings. -/
def runOwn (surroundings : Surroundings) (settings : Settings) (own : Own) (console : Console) :
    Outcome :=
  match own with
  | .usage => .usage
  | .help => .help
  | .render operand assignments debug =>
      render surroundings settings operand assignments debug console
  | .check operand names => check surroundings operand names console
  | .palette count => palette settings count console

/-- What becomes of a command whose configuration cannot be used. -/
def refuse (fault : SourceFault) (console : Console) : Outcome :=
  match fault with
  | .missing _ => console.fail fault.message
  | .content .malformed => console.fail s!"Failed to load config: {fault.message}"
  | .settings inner =>
      if inner.isNumeric then console.crash (.source fault)
      else console.fail s!"Failed to load config: {fault.message}"
  | _ => console.crash (.source fault)

/-- The file that a switch names as the configuration, which has to be a file. -/
def chosenConfig? (workspace : Workspace) (given : Given GeneralSwitch) :
    Option (Option Path) :=
  match (given.values .config).getLast? with
  | none => some none
  | some word =>
      match workspace.entry? word with
      | some (.file _) => some (some (Path.ofText word))
      | _ => none

/-- Run a command line. -/
def run (surroundings : Surroundings) (words : List Text) : Outcome :=
  match readGeneral words with
  | .usage => .usage
  | .help => .help
  | .version => .ended 0 (version.toList ++ ['\n']) []
  | .run given name rest =>
      match chosenConfig? surroundings.workspace given with
      | none => .usage
      | some config =>
          let recorder := Recorder.configure
            ⟨given.has .verbose, given.has .quiet, given.has .machine⟩
          let console : Console := { recorder := recorder, now := surroundings.now }
          match surroundings.workspace.load surroundings.environment config true with
          | .error fault => refuse fault console
          | .ok loaded =>
              let told := match loaded.path with
                | none => console
                | some path =>
                    console.say Level.debug s!"Loaded config from: {String.ofList path}"
              runOwn surroundings loaded.settings (readOwn name rest) told

end Splice.Command
