import Splice.Text.Basic

namespace Splice.Yaml

/-!
# Tokens

The words of a configuration text.  Indentation is turned into tokens of its
own: the beginning of a block sequence or mapping and the end of a block.
-/

/-- A tag as it is written: a handle, if there is one, and what follows it. -/
structure WrittenTag where
  handle : Option Text
  suffix : Text
  deriving DecidableEq

/-- What stands in front of a document. -/
inductive Directive where
  | version (major minor : Nat)
  | handle (name start : Text)
  | reserved
  deriving DecidableEq

/-- A word of a configuration text. -/
inductive Token where
  | directive (content : Directive)
  | documentStart
  | documentEnd
  | blockSequenceStart
  | blockMappingStart
  | blockEnd
  | flowSequenceStart
  | flowSequenceEnd
  | flowMappingStart
  | flowMappingEnd
  | flowEntry
  | blockEntry
  | key
  | value
  | alias (name : Text)
  | anchor (name : Text)
  | tag (written : WrittenTag)
  | scalar (text : Text) (plain : Bool)
  deriving DecidableEq

end Splice.Yaml
