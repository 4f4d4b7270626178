import Splice.File.Workspace
import Splice.Settings.Load
import Splice.Yaml.Load

namespace Splice

/-!
# Configuration files

Settings come from a file that the caller names, or else from the first of two
files that the working directory may hold, or else they are the standard ones.
A named file has to exist.  A configuration that holds itself has no end: the
variables that are met before it turns back are replaced, and then it is given up.
-/

/-- Why a configuration file gives no settings. -/
inductive SourceFault where
  | missing (path : Text)
  | directory
  | encoding
  | content (fault : Yaml.Fault)
  | settings (fault : SettingsFault)

/-- What is said about a configuration file that gives no settings. -/
def SourceFault.message : SourceFault → String
  | .missing path => s!"Config file not found: {String.ofList path}"
  | .directory => ""
  | .encoding => ""
  | .content fault => fault.message
  | .settings fault => fault.message

/-- Settings with the path of the file that they come from. -/
structure Loaded where
  settings : Settings
  path : Option Text

namespace Workspace

/-- The names of the files that may hold the configuration, the first choice in front. -/
def configNames : List (List Text) :=
  [[".codeloom".toList, "config.yaml".toList], ["codeloom.yaml".toList]]

/-- The configuration file of a directory. -/
def configIn? (workspace : Workspace) (directory : Path) : Option Path := do
  let resolved ← workspace.resolve? directory
  (configNames.map resolved.append).find? fun path => (workspace.at? path).isSome

/-- The text of a file. -/
def read (workspace : Workspace) (path : Path) : Except SourceFault Text :=
  match workspace.at? path with
  | none => .error (.missing path.text)
  | some .directory => .error .directory
  | some (.file content) =>
      match Entry.text? content with
      | none => .error .encoding
      | some text => .ok text

/-- The entries of a configuration; what counts as absent has none. -/
def configEntries (path : Path) (value : Datum) : Except SourceFault (Value.Entries Empty) :=
  match value with
  | .dict entries => .ok entries
  | other => if other.isTruthy then .error (.settings (.fileShape path.text)) else .ok []

/-- Why a configuration that holds itself gives no settings; `entries` come before it is met again. -/
def endlessFault (environment : Environment) (entries : Value.Entries Empty) : SourceFault :=
  match environment.substituteEntries entries with
  | .error name => .settings (.unset name)
  | .ok _ => .content .endless

/-- The settings of a configuration file. -/
def loadFile (workspace : Workspace) (environment : Environment) (path : Path) :
    Except SourceFault Loaded := do
  let text ← workspace.read path
  let content ← (Yaml.load text).mapError .content
  let entries ← configEntries path content.value
  if content.isEndless then throw (endlessFault environment entries)
  else
    let settings ← (Settings.load environment entries).mapError .settings
    return ⟨settings, some path.text⟩

/--
The settings from a named file, which has to exist; or else from the working
directory, if its configuration is to be used.
-/
def load (workspace : Workspace) (environment : Environment) (path : Option Path) (discover : Bool) :
    Except SourceFault Loaded :=
  match path with
  | some path =>
      if (workspace.at? path).isSome then workspace.loadFile environment path
      else .error (.missing path.text)
  | none =>
      match if discover then workspace.configIn? (Path.ofText []) else none with
      | some found => workspace.loadFile environment found
      | none => .ok ⟨Settings.standard, none⟩

end Workspace

end Splice
