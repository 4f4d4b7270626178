import Splice.Render.Plain
import Splice.Render.Spans
import Splice.Session.Drafts
import Splice.Session.Registries
import Splice.Template.Compile

namespace Splice.Session

/-!
# Steps of a session

What a program that uses the library can ask for while it runs, and what it is
told.  Drafts, registries and renderers are things that change, so steps name
them by identity; tokens, settings and texts are handed over as they are.
-/

/-- The identity of a renderer that is kept. -/
structure RendererId where
  number : Nat
  deriving DecidableEq

/-- One request. -/
inductive Step where
  /-- Open a registry. -/
  | openRegistry
  /-- Make a token for a place. -/
  | register (file : Text) (line column : Int)
  /-- The token of a site, which is made if it is missing. -/
  | registerSite (registry : RegistryId) (site : Site) (file : Text) (line column : Int)
  /-- The token of a site, if there is one. -/
  | findSite (registry : RegistryId) (site : Site)
  /-- The colour of a token, which is given to it if it has none. -/
  | colour (registry : RegistryId) (token : Token)
  /-- Whether a token has a colour. -/
  | isColoured (registry : RegistryId) (token : Token)
  /-- The style of a token's colour, which is given to it if it has none. -/
  | style (registry : RegistryId) (token : Token)
  /-- Begin a draft that holds a document. -/
  | begin (document : Document)
  /-- Compile a template. -/
  | compile
      (template : Text) (site : Option Token) (arguments : Option (List (Text × Value Draft)))
  /-- Compile a template at the place of a call. -/
  | compileIn (frame : Frame) (template : Text) (arguments : List (Text × Value Draft))
  /-- What a value is as a draft. -/
  | convert (value : Value Draft)
  /-- Begin a draft that holds a text. -/
  | ofText (text : Text)
  /-- Begin a draft that holds several values one behind the other. -/
  | ofValues (values : List (Value Draft))
  /-- Begin a draft that holds what a draft holds, and a value behind it. -/
  | join (left : Draft) (right : Value Draft)
  /-- Let a draft grow by what another one holds. -/
  | append (receiver other : Draft)
  /-- Let a draft grow by a value. -/
  | extend (receiver : Draft) (value : Value Draft)
  /-- The text of a draft. -/
  | plain (draft : Draft) (spacing : Spacing)
  /-- A description of a draft that quotes its text. -/
  | describe (draft : Draft)
  /-- The debug form of a draft in segments. -/
  | segments (draft : Draft) (spacing : Spacing) (tracing : Tracing) (registry : RegistryId)
  /-- The debug form of a draft for a terminal. -/
  | terminal (draft : Draft) (spacing : Spacing) (tracing : Tracing) (registry : RegistryId)
  /-- The debug form of a draft as a text with spans. -/
  | styled (draft : Draft) (spacing : Spacing) (tracing : Tracing) (registry : RegistryId)
  /-- Keep a plain renderer. -/
  | keepPlain (spacing : Spacing)
  /-- Keep a debug renderer. -/
  | keepDebug (spacing : Spacing) (tracing : Tracing) (registry : RegistryId)
  /-- Render a draft with a renderer that was kept. -/
  | use (renderer : RendererId) (draft : Draft)

/-- Compile a template at the place of a call that is told from others by a name. -/
def Step.compileAt
    (call file : Text)
    (line column : Int)
    (template : Text)
    (arguments : List (Text × Value Draft)) :
    Step :=
  .compileIn (.named call file line column) template arguments

/-- What a step gives. -/
inductive Answer where
  | registry (id : RegistryId)
  | renderer (id : RendererId)
  | token (token : Token)
  | site (token : Option Token)
  | colour (number : Nat)
  | isColoured (known : Bool)
  | style (style : Style)
  | draft (draft : Draft)
  | text (text : Text)
  | segments (segments : List (Render.Segment Ink))
  | styled (text : Render.StyledText)
  deriving Inhabited

/-- Why a step gives nothing. -/
inductive Fault where
  | compilation (fault : Template.Fault)
  | reference (fault : Malformed)
  /-- No renderer was kept under this identity. -/
  | noRenderer (id : RendererId)

end Splice.Session
