import Splice.Text.Basic

namespace Splice.Command

/-!
# Words of a command line

A word that begins with a dash is one or several switches; a switch may take a
value, which is the rest of its word or the next word.  All other words are
operands.  Two dashes alone make operands of everything behind them.  A list of
words may also be read only up to its first operand.
-/

/-- A switch with its names. -/
structure Switch (κ : Type) where
  key : κ
  short : Option Char
  /-- The name behind two dashes. -/
  long : String
  takesValue : Bool

/-- Given switches in order, each with its value, if it takes one. -/
abbrev Given (κ : Type) := List (κ × Text)

/-- What one word gives: switches, and possibly one that takes the next word as its value. -/
structure WordReading (κ : Type) where
  given : Given κ
  waiting : Option κ

/-- What a list of words gives: switches and operands. -/
structure WordsReading (κ : Type) where
  given : Given κ
  operands : List Text

variable {κ : Type}

/-- Whether a word is a switch rather than an operand. -/
def isSwitch (word : Text) : Bool :=
  word.head? == some '-' && word.length > 1

/-- The switches that the letters behind one dash stand for. -/
def readLetters (switches : List (Switch κ)) : Text → Option (WordReading κ)
  | [] => some ⟨[], none⟩
  | letter :: rest =>
      match switches.find? fun switch => switch.short == some letter with
      | none => none
      | some switch =>
          if switch.takesValue then
            if rest.isEmpty then some ⟨[], some switch.key⟩
            else some ⟨[(switch.key, rest)], none⟩
          else
            (readLetters switches rest).map fun others =>
              ⟨(switch.key, []) :: others.given, others.waiting⟩

/-- The switch of a long name, with the value behind an equals sign. -/
def readLong (switch : Switch κ) (value : Option Text) : Option (WordReading κ) :=
  match switch.takesValue, value with
  | true, some value => some ⟨[(switch.key, value)], none⟩
  | true, none => some ⟨[], some switch.key⟩
  | false, some _ => none
  | false, none => some ⟨[(switch.key, [])], none⟩

/-- What one switch word gives. -/
def readWord (switches : List (Switch κ)) (word : Text) : Option (WordReading κ) :=
  let name := word.takeWhile (· != '=')
  let value := match word.dropWhile (· != '=') with
    | [] => none
    | _ :: value => some value
  match switches.find? fun switch => ("--" ++ switch.long).toList == name with
  | some switch => readLong switch value
  | none =>
      if Text.startsWith ['-', '-'] word then none else readLetters switches (word.drop 1)

/-- Put given switches in front. -/
def WordsReading.before (given : Given κ) (reading : WordsReading κ) : WordsReading κ :=
  { reading with given := given ++ reading.given }

/-- What words give; `mixed` says whether switches may stand behind operands. -/
def readWords (switches : List (Switch κ)) (mixed : Bool) : List Text → Option (WordsReading κ)
  | [] => some ⟨[], []⟩
  | word :: rest =>
      if word = ['-', '-'] then some ⟨[], rest⟩
      else if isSwitch word then
        match readWord switches word with
        | none => none
        | some ⟨given, none⟩ => (readWords switches mixed rest).map (·.before given)
        | some ⟨given, some key⟩ =>
            match rest with
            | [] => none
            | value :: others =>
                (readWords switches mixed others).map (·.before (given ++ [(key, value)]))
      else if mixed then
        (readWords switches mixed rest).map fun reading =>
          { reading with operands := word :: reading.operands }
      else some ⟨[], word :: rest⟩

/-- The values that were given to a switch. -/
def Given.values [DecidableEq κ] (given : Given κ) (key : κ) : List Text :=
  (given.filter fun entry => entry.1 = key).map Prod.snd

/-- Whether a switch was given. -/
def Given.has [DecidableEq κ] (given : Given κ) (key : κ) : Bool :=
  given.any fun entry => entry.1 = key

end Splice.Command
