import Splice.Render.Debug
import Splice.Render.Plain

namespace Splice.Render

/-!
# Segments that are handed out

The segments that debug rendering gives back lie in a galley: a row that grows in place, and
that the renderer keeps as its own output until it begins another one.  Whoever was given a
galley reads what it holds at the moment of reading.

A press works as a desk does, but writes to a galley.  It adds to its own galley alone and
looks like the desk throughout (`mirrors_composeAll`).  A renderer begins a new galley for each
document, so it gives what a renderer gives that keeps its output to itself, and leaves the
galleys from before as they were (`DebugPress.steps_render`).  Hence what it gave for several
documents can still be read behind the last of them (`DebugPress.read_renderEach`).

Plain rendering gives back texts, which do not change (`PlainRenderer.renderEach_eq_map`).
-/

/-- The identity of a row of segments that grows in place. -/
structure Galley where
  number : Nat
  deriving DecidableEq

/-- All galleys with what they hold. -/
structure Galleys (μ : Type) where
  rows : Array (List (Segment μ)) := #[]

namespace Galleys

variable {μ : Type}

/-- What a galley holds now. -/
def read (galleys : Galleys μ) (galley : Galley) : List (Segment μ) :=
  galleys.rows[galley.number]?.getD []

/-- Begin an empty galley. -/
def begin (galleys : Galleys μ) : Galley × Galleys μ :=
  (⟨galleys.rows.size⟩, ⟨galleys.rows.push []⟩)

/-- Add segments at the end of a galley. -/
def add (galleys : Galleys μ) (galley : Galley) (more : List (Segment μ)) : Galleys μ :=
  ⟨galleys.rows.modify galley.number fun row => row ++ more⟩

/-- Whether a galley was begun. -/
def holds (galleys : Galleys μ) (galley : Galley) : Prop :=
  galley.number < galleys.rows.size

/-- No galley but one was touched. -/
structure OnlyAt (galley : Galley) (first later : Galleys μ) : Prop where
  size : later.rows.size = first.rows.size
  others : ∀ other, other ≠ galley → later.read other = first.read other

/-- The galleys from before hold what they held. -/
structure Grows (first later : Galleys μ) : Prop where
  holds : ∀ {galley}, first.holds galley → later.holds galley
  read : ∀ {galley}, first.holds galley → later.read galley = first.read galley

variable {galleys : Galleys μ}

/-- A galley that is held shows what was added behind what it held. -/
theorem read_add_self
    {galley : Galley}
    (held : galleys.holds galley)
    (more : List (Segment μ)) :
    (galleys.add galley more).read galley = galleys.read galley ++ more := by
  unfold holds at held
  simp [add, read, held, Array.getElem_modify_self]

theorem onlyAt_add
    (galleys : Galleys μ)
    (galley : Galley)
    (more : List (Segment μ)) :
    OnlyAt galley galleys (galleys.add galley more) where
  size := Array.size_modify
  others := by
    intro other different
    have apart : galley.number ≠ other.number :=
      fun same => different (congrArg Galley.mk same.symm)
    simp [add, read, Array.getElem?_modify, apart]

theorem holds_begun (galleys : Galleys μ) : galleys.begin.2.holds galleys.begin.1 := by
  simp [holds, begin]

theorem read_begun (galleys : Galleys μ) : galleys.begin.2.read galleys.begin.1 = [] := by
  simp [read, begin]

namespace OnlyAt

variable {galley : Galley} {first second third : Galleys μ}

theorem refl (galley : Galley) (galleys : Galleys μ) : OnlyAt galley galleys galleys :=
  ⟨rfl, fun _ _ => rfl⟩

theorem trans
    (before : OnlyAt galley first second)
    (after : OnlyAt galley second third) :
    OnlyAt galley first third where
  size := after.size.trans before.size
  others := fun other different =>
    (after.others other different).trans (before.others other different)

/-- No galley is lost while one of them changes. -/
theorem holds
    (only : OnlyAt galley first second)
    {other : Galley}
    (held : first.holds other) :
    second.holds other := by
  unfold Galleys.holds
  rw [only.size]
  exact held

end OnlyAt

namespace Grows

variable {first second third : Galleys μ}

theorem refl (galleys : Galleys μ) : Grows galleys galleys :=
  ⟨id, fun _ => rfl⟩

theorem trans
    (before : Grows first second)
    (after : Grows second third) :
    Grows first third where
  holds := fun held => after.holds (before.holds held)
  read := fun held => (after.read (before.holds held)).trans (before.read held)

/-- Work on a new galley leaves those that were begun before alone. -/
theorem of_begin
    {later : Galleys μ}
    (only : OnlyAt galleys.begin.1 galleys.begin.2 later) :
    Grows galleys later where
  holds := by
    intro galley held
    apply only.holds
    unfold Galleys.holds at *
    simpa only [begin, Array.size_push] using Nat.lt_succ_of_lt held
  read := by
    intro galley held
    have earlier : galley.number ≠ galleys.rows.size := Nat.ne_of_lt held
    have different : galley ≠ galleys.begin.1 :=
      fun same => earlier (congrArg Galley.number same)
    rw [only.others galley different]
    simp [begin, Galleys.read, Array.getElem?_push, earlier]

end Grows

end Galleys

namespace Sheet

variable {μ : Type}

/-- A sheet with its output behind what was written earlier. -/
def onto (earlier : List (Segment μ)) (sheet : Sheet μ) : Sheet μ :=
  { sheet with output := earlier ++ sheet.output }

/-- A change that reads nothing of the output and only adds to it. -/
def Adds (change : Sheet μ → Sheet μ) : Prop :=
  ∀ earlier sheet, change (sheet.onto earlier) = (change sheet).onto earlier

namespace Adds

/-- Writing a text reads nothing of the output. -/
theorem write (text : Text) (ink : μ) : Adds fun sheet => sheet.write text ink :=
  fun _ _ => rfl

variable [Hooks μ]

theorem flush (spacing : Spacing) (column : Nat) :
    Adds fun sheet : Sheet μ => sheet.flush spacing column := by
  intro earlier sheet
  have sameLine : (sheet.onto earlier).lineText = sheet.lineText := rfl
  simp only [Sheet.flush, sameLine]
  by_cases blank : Text.allBlank sheet.lineText
  · simp only [onto, blank, ↓reduceIte]
  · simp only [onto, blank, Sheet.emit, List.append_assoc]
    rfl

theorem breakLine (spacing : Spacing) (column : Nat) :
    Adds fun sheet : Sheet μ => sheet.breakLine spacing column := by
  intro earlier sheet
  have flushed := flush spacing column earlier sheet
  unfold Sheet.breakLine
  simp only at flushed ⊢
  rw [flushed]
  by_cases room : (sheet.flush spacing column).pending < (sheet.flush spacing column).cap
  · simp only [onto, room, ↓reduceIte]
  · simp only [onto, room, ↓reduceIte]

theorem finish (spacing : Spacing) : Adds fun sheet : Sheet μ => sheet.finish spacing := by
  intro earlier sheet
  have flushed := flush spacing 0 earlier sheet
  unfold Sheet.finish
  simp only at flushed ⊢
  rw [flushed]
  by_cases keeps : (spacing.finalBreak && (sheet.flush spacing 0).emitted &&
      (sheet.flush spacing 0).pending != 0) = true
  · simp only [onto, keeps, ↓reduceIte, List.append_assoc]
  · simp only [onto, keeps]
    rfl

end Adds

end Sheet

variable {σ μ : Type}

/-- What works on a document: a sheet whose output lies in a galley, and a hand. -/
structure Press (σ μ : Type) where
  /-- The sheet, of which the output is not used. -/
  sheet : Sheet μ
  hand : σ
  galley : Galley
  galleys : Galleys μ

namespace Press

/-- The desk that a press looks like. -/
def desk (press : Press σ μ) : Desk σ μ where
  sheet := { press.sheet with output := press.galleys.read press.galley }
  hand := press.hand

/-- Add segments to the galley of a press. -/
def add (press : Press σ μ) (more : List (Segment μ)) : Press σ μ :=
  { press with galleys := press.galleys.add press.galley more }

/-- Change the sheet; what the change writes goes to the galley. -/
def turn (press : Press σ μ) (change : Sheet μ → Sheet μ) : Press σ μ :=
  let changed := change { press.sheet with output := [] }
  { press with sheet := changed }.add changed.output

/-- A press after work on its own galley alone. -/
structure Kept (press later : Press σ μ) : Prop where
  galley : later.galley = press.galley
  only : press.galleys.OnlyAt press.galley later.galleys

namespace Kept

variable {first second third : Press σ μ}

theorem refl (press : Press σ μ) : press.Kept press :=
  ⟨rfl, .refl _ _⟩

theorem trans (before : first.Kept second) (after : second.Kept third) : first.Kept third where
  galley := after.galley.trans before.galley
  only := before.only.trans (before.galley ▸ after.only)

/-- A press never loses its galley. -/
theorem holds
    (kept : first.Kept second)
    (held : first.galleys.holds first.galley) :
    second.galleys.holds second.galley := by
  rw [kept.galley]
  exact kept.only.holds held

end Kept

theorem kept_add (press : Press σ μ) (more : List (Segment μ)) : press.Kept (press.add more) :=
  ⟨rfl, press.galleys.onlyAt_add press.galley more⟩

theorem kept_turn
    (press : Press σ μ)
    (change : Sheet μ → Sheet μ) :
    press.Kept (press.turn change) :=
  ⟨rfl, press.galleys.onlyAt_add press.galley _⟩

/-- A change that only adds does the same at a press and at the desk that it looks like. -/
theorem desk_turn
    {press : Press σ μ}
    (held : press.galleys.holds press.galley)
    {change : Sheet μ → Sheet μ}
    (adds : Sheet.Adds change) :
    (press.turn change).desk = { press.desk with sheet := change press.desk.sheet } := by
  let blank : Sheet μ := { press.sheet with output := [] }
  have written : press.desk.sheet = blank.onto (press.galleys.read press.galley) := by
    simp only [desk, Sheet.onto, blank, List.append_nil]
  rw [written, adds]
  simp only [turn, add, desk, Sheet.onto, blank, Galleys.read_add_self held]

end Press

mutual

/-- Walk one node at a press. -/
def compose [Hooks μ] (pen : Pen σ μ) (spacing : Spacing) (base : Nat) (press : Press σ μ) :
    Node → Except (Malformed × Press σ μ) (Press σ μ)
  | .newline => .ok (press.turn fun sheet => sheet.breakLine spacing base)
  | .fixed text => .ok (press.turn fun sheet => sheet.write text (pen.ink press.hand))
  | .owned text => .ok (press.turn fun sheet => sheet.write text (pen.ink press.hand))
  | .block nodes | .again nodes => do
      let entered := { press with hand := pen.enter press.hand }
      let inside ← composeAll pen spacing press.sheet.column entered nodes
      return { inside with hand := pen.leave press.hand inside.hand }
  | .marker token => .ok { press with hand := pen.mark token press.hand }
  | .broken fault => .error (fault, press)

/-- Walk several nodes at a press. -/
def composeAll [Hooks μ] (pen : Pen σ μ) (spacing : Spacing) (base : Nat) (press : Press σ μ) :
    List Node → Except (Malformed × Press σ μ) (Press σ μ)
  | [] => .ok press
  | node :: rest => do
      let next ← compose pen spacing base press node
      composeAll pen spacing base next rest

end

/-- Walk a whole document at a press and finish its last line. -/
def composeDocument
    [Hooks μ]
    (pen : Pen σ μ)
    (spacing : Spacing)
    (press : Press σ μ)
    (document : Document) :
    Except (Malformed × Press σ μ) (Press σ μ) := do
  let composed ← composeAll pen spacing 0 press document.nodes
  return composed.turn fun sheet => sheet.finish spacing

/-- Work at a press that comes to the same as work at the desk that the press looked like. -/
inductive Mirrors (press : Press σ μ) :
    Except (Malformed × Press σ μ) (Press σ μ) → Except (Stopped σ μ) (Desk σ μ) → Prop where
  | done {later : Press σ μ} (kept : press.Kept later) :
      Mirrors press (.ok later) (.ok later.desk)
  | stopped {fault : Malformed} {left : Press σ μ} (kept : press.Kept left) :
      Mirrors press (.error (fault, left)) (.error (fault, left.desk))

namespace Mirrors

/-- A change of the sheet at a press mirrors the change at its desk. -/
theorem turn
    {press : Press σ μ}
    (held : press.galleys.holds press.galley)
    {change : Sheet μ → Sheet μ}
    (adds : Sheet.Adds change) :
    Mirrors press (.ok (press.turn change))
      (.ok { press.desk with sheet := change press.desk.sheet }) := by
  rw [← Press.desk_turn held adds]
  exact .done (press.kept_turn change)

/-- Work that goes on where other work ended. -/
theorem next
    {press : Press σ μ}
    {composed : Except (Malformed × Press σ μ) (Press σ μ)}
    {walked : Except (Stopped σ μ) (Desk σ μ)}
    (first : Mirrors press composed walked)
    {onPress : Press σ μ → Except (Malformed × Press σ μ) (Press σ μ)}
    {onDesk : Desk σ μ → Except (Stopped σ μ) (Desk σ μ)}
    (onward : ∀ {later}, press.Kept later → Mirrors later (onPress later) (onDesk later.desk)) :
    Mirrors press (composed.bind onPress) (walked.bind onDesk) := by
  cases first with
  | stopped kept => exact .stopped kept
  | @done later kept =>
      have second := onward kept
      simp only [Except.bind]
      generalize onPress later = composed, onDesk later.desk = walked at second
      cases second with
      | done after => exact .done (kept.trans after)
      | stopped after => exact .stopped (kept.trans after)

end Mirrors

section Composing

variable [Hooks μ] (pen : Pen σ μ) (spacing : Spacing)

mutual

/-- Walking a node at a press mirrors walking it at the desk. -/
theorem mirrors_compose
    (base : Nat)
    {press : Press σ μ}
    (held : press.galleys.holds press.galley) :
    ∀ node : Node,
      Mirrors press (compose pen spacing base press node) (walk pen spacing base press.desk node)
  | .newline => .turn held (.breakLine spacing base)
  | .fixed text | .owned text => .turn held (.write text (pen.ink press.hand))
  | .broken _ => .stopped (.refl press)
  | .marker _ => .done ⟨rfl, .refl _ _⟩
  | .block nodes | .again nodes => by
      let entered : Press σ μ := { press with hand := pen.enter press.hand }
      have held : entered.galleys.holds entered.galley := held
      have inside := mirrors_composeAll press.sheet.column held nodes
      -- The hand is of no account for the galley, so `entered` may stand for `press`.
      have within : Mirrors press (composeAll pen spacing press.sheet.column entered nodes)
          (walkAll pen spacing press.sheet.column entered.desk nodes) := by
        generalize composeAll pen spacing press.sheet.column entered nodes = composed,
          walkAll pen spacing press.sheet.column entered.desk nodes = walked at inside
        cases inside with
        | done kept => exact .done ⟨kept.galley, kept.only⟩
        | stopped kept => exact .stopped ⟨kept.galley, kept.only⟩
      simp only [compose, walk]
      exact within.next fun _ => .done ⟨rfl, .refl _ _⟩

/-- Walking nodes at a press mirrors walking them at the desk. -/
theorem mirrors_composeAll
    (base : Nat)
    {press : Press σ μ}
    (held : press.galleys.holds press.galley) :
    ∀ nodes : List Node,
      Mirrors press (composeAll pen spacing base press nodes)
        (walkAll pen spacing base press.desk nodes)
  | [] => .done (.refl press)
  | node :: rest => by
      simp only [composeAll, walkAll]
      exact (mirrors_compose base held node).next fun kept =>
        mirrors_composeAll base (kept.holds held) rest

end

/-- Walking a document at a press mirrors walking it at the desk. -/
theorem mirrors_composeDocument
    {press : Press σ μ}
    (held : press.galleys.holds press.galley)
    (document : Document) :
    Mirrors press (composeDocument pen spacing press document)
      (walkDocument pen spacing press.desk document) :=
  (mirrors_composeAll pen spacing 0 held document.nodes).next fun kept =>
    .turn (kept.holds held) (.finish spacing)

end Composing

/-- A use of a debug renderer: the registry and the shelf at that moment, and the document. -/
structure DebugCall where
  registry : Registry
  shelf : Shelf
  document : Document

/-- What one debug rendering gives back: a galley or a fault, and the state that lasts. -/
structure Printed where
  galley : Except Malformed Galley
  registry : Registry
  shelf : Shelf
  notes : List Note

/-- What was given back, as it is read at some moment. -/
def Printed.read (galleys : Galleys Ink) (printed : Printed) : DebugResult where
  segments := printed.galley.map galleys.read
  registry := printed.registry
  shelf := printed.shelf
  notes := printed.notes

/-- What was given back does not change when galleys are begun and others grow. -/
theorem Printed.read_of_grows
    {first later : Galleys Ink}
    (grows : first.Grows later)
    {printed : Printed}
    (given : ∀ galley, printed.galley = .ok galley → first.holds galley) :
    printed.read later = printed.read first := by
  rcases printed with ⟨fault | galley, registry, shelf, notes⟩
  · rfl
  · simp only [read, Except.map, grows.read (given galley rfl)]

/-- A debug renderer with what its last use left behind, which gave its galley away. -/
structure DebugPress where
  spacing : Spacing
  tracing : Tracing
  sheet : Sheet Ink
  hand : Hand
  galley : Galley

namespace DebugPress

/-- The renderer with another press behind it. -/
def leave (renderer : DebugPress) (press : Press Hand Ink) : DebugPress :=
  { renderer with sheet := press.sheet, hand := press.hand, galley := press.galley }

/-- What comes back when the walk is over: the whole galley, or the fault that stopped the walk. -/
def close (renderer : DebugPress) :
    Except (Malformed × Press Hand Ink) (Press Hand Ink) → Printed × DebugPress × Galleys Ink
  | .ok done =>
      let body := done.galleys.read done.galley
      let whole := done.add (legendGap body ++ legend renderer.tracing done.hand.seen)
      ({ galley := .ok whole.galley
         registry := whole.hand.registry
         shelf := whole.hand.shelf
         notes := whole.hand.notes ++ [DebugRenderer.closingNote whole.hand.seen] },
        renderer.leave whole, whole.galleys)
  | .error (fault, left) =>
      ({ galley := .error fault
         registry := left.hand.registry
         shelf := left.hand.shelf
         notes := left.hand.notes },
        renderer.leave left, left.galleys)

/-- The press at the beginning of a document: a new galley, and nothing of an earlier use. -/
def openPress (renderer : DebugPress) (galleys : Galleys Ink) (call : DebugCall) :
    Press Hand Ink where
  sheet := renderer.sheet.restart
  hand := renderer.hand.restart call.registry call.shelf
  galley := galleys.begin.1
  galleys := galleys.begin.2

/-- Render a document in a new galley, and keep what the walk left. -/
def render
    (renderer : DebugPress)
    (galleys : Galleys Ink)
    (call : DebugCall) :
    Printed × DebugPress × Galleys Ink :=
  renderer.close
    (composeDocument (debugPen renderer.tracing) renderer.spacing
      (renderer.openPress galleys call) call.document)

/-- Render documents one after another, and give what came back with the galleys at the end. -/
def renderEach (renderer : DebugPress) (galleys : Galleys Ink) :
    List DebugCall → List Printed × Galleys Ink
  | [] => ([], galleys)
  | call :: rest =>
      let (printed, later, galleys) := renderer.render galleys call
      let (more, galleys) := later.renderEach galleys rest
      (printed :: more, galleys)

/-- The renderer that keeps its output to itself and otherwise is the same. -/
def alone (renderer : DebugPress) (galleys : Galleys Ink) : DebugRenderer where
  spacing := renderer.spacing
  tracing := renderer.tracing
  desk := ⟨{ renderer.sheet with output := galleys.read renderer.galley }, renderer.hand⟩

/-- One use of a renderer, next to the same use of the renderer that keeps its output. -/
structure Steps
    (renderer : DebugPress)
    (galleys : Galleys Ink)
    (call : DebugCall)
    (printed : Printed)
    (later : DebugPress)
    (after : Galleys Ink) : Prop where
  result : printed.read after =
    ((renderer.alone galleys).render call.registry call.shelf call.document).1
  alone : later.alone after =
    ((renderer.alone galleys).render call.registry call.shelf call.document).2
  grows : galleys.Grows after
  given : ∀ galley, printed.galley = .ok galley → after.holds galley

/--
Rendering at a press takes the step that the desk allows, and leaves earlier galleys as they
are.
-/
theorem steps_render
    (renderer : DebugPress)
    (galleys : Galleys Ink)
    (call : DebugCall) :
    Steps renderer galleys call (renderer.render galleys call).1
      (renderer.render galleys call).2.1 (renderer.render galleys call).2.2 := by
  let press := renderer.openPress galleys call
  let same := renderer.alone galleys
  have held : press.galleys.holds press.galley := galleys.holds_begun
  have blank : press.desk =
      ⟨same.desk.sheet.restart, same.desk.hand.restart call.registry call.shelf⟩ := by
    simp only [press, openPress, Press.desk, Galleys.read_begun]
    rfl
  have mirrors := mirrors_composeDocument (debugPen same.tracing) same.spacing held call.document
  rw [blank] at mirrors
  generalize composed : composeDocument (debugPen same.tracing) same.spacing press call.document =
    onPress at mirrors
  generalize walked : walkDocument (debugPen same.tracing) same.spacing
    ⟨same.desk.sheet.restart, same.desk.hand.restart call.registry call.shelf⟩ call.document =
    onDesk at mirrors
  have printed : renderer.render galleys call = renderer.close onPress :=
    congrArg renderer.close composed
  rw [printed]
  cases mirrors with
  | @stopped fault left kept =>
      have rendered : same.render call.registry call.shelf call.document =
          (⟨.error fault, left.hand.registry, left.hand.shelf, left.hand.notes⟩,
            { same with desk := left.desk }) := by
        simp only [DebugRenderer.render, walked]
        rfl
      constructor
      · rw [rendered]
        rfl
      · rw [rendered]
        rfl
      · exact .of_begin kept.only
      · rintro galley given
        cases given
  | @done later kept =>
      let body := later.galleys.read later.galley
      let whole := later.add (legendGap body ++ legend renderer.tracing later.hand.seen)
      have whole_kept : press.Kept whole := kept.trans (later.kept_add _)
      have segments : whole.galleys.read whole.galley =
          withLegend renderer.tracing later.hand.seen body := by
        rw [withLegend, List.append_assoc]
        exact Galleys.read_add_self (kept.holds held) _
      have rendered : same.render call.registry call.shelf call.document =
          (⟨.ok (whole.galleys.read whole.galley), whole.hand.registry, whole.hand.shelf,
              whole.hand.notes ++ [DebugRenderer.closingNote whole.hand.seen]⟩,
            { same with desk := whole.desk }) := by
        simp only [DebugRenderer.render, walked, Press.desk, segments]
        rfl
      constructor
      · rw [rendered]
        rfl
      · rw [rendered]
        rfl
      · exact .of_begin whole_kept.only
      · rintro galley given
        cases given
        exact whole_kept.holds held

/-- A press keeps its rules however often it is used. -/
theorem settings_render
    (renderer : DebugPress)
    (galleys : Galleys Ink)
    (call : DebugCall) :
    (renderer.render galleys call).2.1.spacing = renderer.spacing ∧
      (renderer.render galleys call).2.1.tracing = renderer.tracing := by
  unfold render close
  split <;> exact ⟨rfl, rfl⟩

/--
What a renderer gave for several documents is, when it is read at the end, what a new renderer
gives for each of them, and the galleys from before hold what they held.
-/
theorem read_renderEach
    (renderer : DebugPress)
    (galleys : Galleys Ink)
    (calls : List DebugCall) :
    (renderer.renderEach galleys calls).1.map (Printed.read (renderer.renderEach galleys calls).2) =
        calls.map (fun call =>
          debug renderer.spacing renderer.tracing call.registry call.shelf call.document) ∧
      galleys.Grows (renderer.renderEach galleys calls).2 := by
  induction calls generalizing renderer galleys with
  | nil => exact ⟨rfl, .refl galleys⟩
  | cons call rest inductionHypothesis =>
      have steps := steps_render renderer galleys call
      have settings := settings_render renderer galleys call
      simp only [renderEach, List.map_cons]
      generalize renderer.render galleys call = outcome at steps settings
      rcases outcome with ⟨printed, later, after⟩
      rcases inductionHypothesis later after with ⟨others, grows⟩
      have stays : printed.read (later.renderEach after rest).2 = printed.read after :=
        Printed.read_of_grows grows steps.given
      refine ⟨?_, steps.grows.trans grows⟩
      rw [stays, steps.result, DebugRenderer.render_eq_debug, others, settings.1, settings.2]
      rfl

/-- A renderer that was stopped inside a block begins the next document from the margin. -/
example :
    let renderer : DebugPress := ⟨.standard, .standard, Sheet.start, Hand.start {} {}, ⟨0⟩⟩
    let stopping : Document := [.fixed "f(".toList, .block [.owned "x".toList, .back 1]]
    let outcome := renderer.renderEach {} [⟨{}, {}, stopping⟩, ⟨{}, {}, [.fixed "y".toList]⟩]
    outcome.1.map (fun printed =>
        (printed.read outcome.2).segments.toOption.map segmentsText) =
      [none, some "y\n\nProvenance:\n".toList] := by
  decide +kernel

end DebugPress

/-- A debug renderer keeps its rules however often it is used. -/
theorem DebugRenderer.settings_render
    (renderer : DebugRenderer)
    (registry : Registry)
    (shelf : Shelf)
    (document : Document) :
    (renderer.render registry shelf document).2.spacing = renderer.spacing ∧
      (renderer.render registry shelf document).2.tracing = renderer.tracing := by
  unfold render
  dsimp only
  split <;> exact ⟨rfl, rfl⟩

namespace PlainRenderer

/-- A plain renderer keeps its rules however often it is used. -/
theorem spacing_render
    (renderer : PlainRenderer)
    (document : Document) :
    (renderer.render document).2.spacing = renderer.spacing := by
  unfold render
  dsimp only
  split <;> rfl

/-- Render documents one after another. -/
def renderEach (renderer : PlainRenderer) : List Document → List (Except Malformed Text)
  | [] => []
  | document :: rest =>
      let (result, later) := renderer.render document
      result :: later.renderEach rest

/-- What a renderer gives for several documents is what a new one gives for each of them. -/
theorem renderEach_eq_map
    (renderer : PlainRenderer)
    (documents : List Document) :
    renderer.renderEach documents = documents.map (plain renderer.spacing) := by
  induction documents generalizing renderer with
  | nil => rfl
  | cons document rest inductionHypothesis =>
      simp only [renderEach, List.map_cons, inductionHypothesis, render_eq_plain, spacing_render]

end PlainRenderer

end Splice.Render
