import Splice.Number.Notation

namespace Splice

/-!
# Provenance tokens

A token stands for one place at which a template was compiled.  Two tokens are
the same place when their numbers agree; the location only says where to look,
so two places on one line are still told apart.
-/

/-- The identity of a place at which a template was compiled. -/
structure Token where
  id : Int
  file : Text
  line : Int
  column : Int
  deriving DecidableEq

namespace Token

/-- File, line and column with colons. -/
def location (token : Token) : Text :=
  token.file ++ ':' :: intText token.line ++ ':' :: intText token.column

/-- Whether two tokens stand for the same place. -/
def same (left right : Token) : Bool :=
  left.id == right.id

end Token

end Splice
