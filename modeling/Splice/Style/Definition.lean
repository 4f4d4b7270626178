import Splice.Style.Basic

namespace Splice

/-!
# Style definitions

A style is defined by words: an attribute switches itself on, `not` with an
attribute switches it off, `on` with a colour chooses the background, `link` with an
address makes a link, and any other word is a colour for the text.  A later word
overrides an earlier one.  The word `none` alone, or no word at all, decides nothing.
-/

/-- Why a text defines no style. -/
inductive StyleFault where
  | backgroundExpected
  | attributeExpected (found : Text)
  | addressExpected
  | badBackground (word : Text) (why : ColourFault)
  | badColour (word : Text) (why : ColourFault)
  deriving DecidableEq

/-- What is said about a text that defines no style. -/
def StyleFault.message : StyleFault → String
  | .backgroundExpected => "color expected after 'on'"
  | .attributeExpected found =>
      s!"expected style attribute after 'not', found {String.ofList (Text.quoted found)}"
  | .addressExpected => "URL expected after 'link'"
  | .badBackground word why =>
      s!"unable to parse {String.ofList (Text.quoted word)} as background color; {why.message}"
  | .badColour word why =>
      s!"unable to parse {String.ofList (Text.quoted word)} as color; {why.message}"

namespace Style

/-- Let the words of a definition decide what `style` leaves open or decided before. -/
def applyWords (style : Style) : List Text → Except StyleFault Style
  | [] => .ok style
  | word :: rest =>
      let key := Text.lower word
      if key = "on".toList then
        match rest with
        | [] => .error .backgroundExpected
        | next :: others =>
            match Colour.read next with
            | .error why => .error (.badBackground next why)
            | .ok colour => applyWords { style with background := some colour } others
      else if key = "not".toList then
        match rest with
        | [] => .error (.attributeExpected [])
        | next :: others =>
            match Attribute.ofName? next with
            | none => .error (.attributeExpected next)
            | some trait => applyWords (style.set trait false) others
      else if key = "link".toList then
        match rest with
        | [] => .error .addressExpected
        | next :: others => applyWords { style with link := some next } others
      else
        match Attribute.ofName? key with
        | some trait => applyWords (style.set trait true) rest
        | none =>
            match Colour.read key with
            | .error why => .error (.badColour key why)
            | .ok colour => applyWords { style with foreground := some colour } rest

/-- The style that a text defines. -/
def define (definition : Text) : Except StyleFault Style :=
  if Text.trim definition = "none".toList then .ok null
  else applyWords null (Text.words definition)

end Style

end Splice
