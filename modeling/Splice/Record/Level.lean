import Splice.Number.Notation
import Splice.Style.Basic

namespace Splice

/-!
# Levels

The importance of a record is an integer.  Six of them have names, and the five
that are not zero have a style for their tag.
-/

/-- The importance of a record. -/
abbrev Level := Int

namespace Level

/-- Details for finding errors. -/
def debug : Level := 10

/-- What is done. -/
def info : Level := 20

/-- What may be wrong. -/
def warning : Level := 30

/-- What failed. -/
def error : Level := 40

/-- What stops everything. -/
def critical : Level := 50

/-- The levels with a name. -/
def names : List (Level × String) := [
  (0, "NOTSET"), (debug, "DEBUG"), (info, "INFO"), (warning, "WARNING"),
  (error, "ERROR"), (critical, "CRITICAL")]

/-- The name of a level, or its number. -/
def name (level : Level) : Text :=
  match names.lookup level with
  | some name => name.toList
  | none => "Level ".toList ++ intText level

/-- A style with one standard colour for the text. -/
def coloured (name : String) (number : Nat) : Style :=
  { foreground := some ⟨name.toList, .numbered number⟩ }

/-- The styles of tags. -/
def styles : List (Level × Style) := [
  (debug, coloured "bright_black" 8), (info, coloured "green" 2),
  (warning, coloured "yellow" 3), (error, coloured "red" 1),
  (critical, (coloured "red" 1).set .bold true)]

/-- The style of the tag of a level. -/
def style (level : Level) : Style :=
  (styles.lookup level).getD Style.null

end Level

end Splice
