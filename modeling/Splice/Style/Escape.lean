import Splice.Style.Basic

namespace Splice.Style

/-!
# Escape sequences

A styled text is written between a sequence that selects its codes and one that
resets them; a text without codes is written as it is.  What is a link stands between
two more sequences, of which the first one holds the address and a number that tells
one link from another.  A stream that is no terminal gets the text without sequences
that end with a letter.
-/

/-- The character that begins an escape sequence. -/
def escape : Char := Char.ofNat 0x1B

/-- A text between the given codes and a reset. -/
def paint (codes : Text) (t : Text) : Text :=
  if t.isEmpty || codes.isEmpty then t
  else escape :: '[' :: codes ++ 'm' :: t ++ [escape, '[', '0', 'm']

/-- A text shown in a style on a terminal of the given system. -/
def render (system : ColourSystem) (style : Style) (t : Text) : Text :=
  paint (style.codeText system) t

/-- What the sequences of links begin with. -/
def linkMark : Text := "]8;".toList

/-- The sequence that begins a link with a number to an address, or that ends one. -/
def linkSequence (parameters address : Text) : Text :=
  escape :: linkMark ++ parameters ++ ';' :: address ++ [escape, '\\']

/-- A text as a link with a number, if there is an address. -/
def linked (number : Nat) (link : Option Text) (t : Text) : Text :=
  match link with
  | none => t
  | some address =>
      linkSequence ("id=".toList ++ Nat.toDigits 10 number) address ++ t ++ linkSequence [] []

/-- How much of an escape sequence has been read. -/
inductive Pending where
  | nothing
  | escape
  /-- The parameters read so far, the last of which comes first. -/
  | parameters (reversed : Text)

/-- What has been read of a sequence that turned out to be none. -/
def Pending.source : Pending → Text
  | .nothing => []
  | .escape => [Style.escape]
  | .parameters reversed => Style.escape :: '[' :: reversed.reverse

/-- Whether a character may stand between the bracket and the letter of a sequence. -/
def isParameter (c : Char) : Bool :=
  c == ';' || c == '?' || ('0' ≤ c && c ≤ '9')

/-- Drop the escape sequences of a text that follows `pending`. -/
def withoutEscapesAfter (pending : Pending) : Text → Text
  | [] => pending.source
  | c :: rest =>
      let plainly : Text :=
        if c = escape then pending.source ++ withoutEscapesAfter .escape rest
        else pending.source ++ c :: withoutEscapesAfter .nothing rest
      match pending with
      | .nothing => plainly
      | .escape => if c = '[' then withoutEscapesAfter (.parameters []) rest else plainly
      | .parameters reversed =>
          if isParameter c then withoutEscapesAfter (.parameters (c :: reversed)) rest
          else if c.isAlpha then withoutEscapesAfter .nothing rest
          else plainly

/-- Drop every escape sequence: escape, bracket, parameters and a letter. -/
def withoutEscapes (t : Text) : Text :=
  withoutEscapesAfter .nothing t

end Splice.Style
