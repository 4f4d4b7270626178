import Splice.Text.Basic

namespace Splice

/-!
# Spacing rules

How many line breaks may stand between two lines with content.  The caps count
line breaks, so a cap of two allows one blank line.  Every cap is at least one,
which keeps two such lines apart.
-/

/-- The caps on consecutive line breaks and the treatment of a final one. -/
structure Spacing where
  /-- The cap between two lines. -/
  cap : Nat := 2
  /-- The cap after a line that ends with an opening bracket. -/
  capAfterOpen : Nat := 1
  /-- The cap before a line that begins with a closing bracket. -/
  capBeforeClose : Nat := 1
  /-- Whether a document that ends with a line break keeps one. -/
  finalBreak : Bool := true
  cap_pos : 0 < cap := by exact Nat.zero_lt_succ _
  capAfterOpen_pos : 0 < capAfterOpen := by exact Nat.zero_lt_succ _
  capBeforeClose_pos : 0 < capBeforeClose := by exact Nat.zero_lt_succ _

/-- The spacing rules when none are configured. -/
def Spacing.standard : Spacing := {}

end Splice
