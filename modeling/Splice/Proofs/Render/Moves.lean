import Splice.Render.Walk

namespace Splice.Render

/-!
# What every move keeps

A walk is made of few moves: it breaks a line, writes a text, enters and leaves a block and
meets a marker.  A relation between desks that holds across each of these moves holds across
every walk, from its beginning to the desk where it ends or is stopped.
-/

variable {σ μ : Type} [Hooks μ]

/-- The desk after a walk, which may have been stopped. -/
def deskAfter : Except (Stopped σ μ) (Desk σ μ) → Desk σ μ
  | .ok done => done
  | .error (_, left) => left

/-- A relation between the desk before a move and the desk after it, for every move. -/
structure Keeps
    (pen : Pen σ μ)
    (spacing : Spacing)
    (R : Desk σ μ → Desk σ μ → Prop) : Prop where
  same : ∀ desk, R desk desk
  next : ∀ {first second third}, R first second → R second third → R first third
  breakLine : ∀ base desk, R desk { desk with sheet := desk.sheet.breakLine spacing base }
  write : ∀ text desk, R desk { desk with sheet := desk.sheet.write text (pen.ink desk.hand) }
  enter : ∀ desk, R desk { desk with hand := pen.enter desk.hand }
  leave : ∀ {outside inside}, R outside inside →
    R outside { inside with hand := pen.leave outside.hand inside.hand }
  mark : ∀ token desk, R desk { desk with hand := pen.mark token desk.hand }
  finish : ∀ desk, R desk { desk with sheet := desk.sheet.finish spacing }

namespace Keeps

variable {pen : Pen σ μ} {spacing : Spacing} {R : Desk σ μ → Desk σ μ → Prop}

mutual

theorem walk
    (keeps : Keeps pen spacing R)
    (base : Nat)
    (desk : Desk σ μ) :
    ∀ node : Node, R desk (deskAfter (Render.walk pen spacing base desk node))
  | .newline => keeps.breakLine base desk
  | .fixed text | .owned text => keeps.write text desk
  | .broken _ => keeps.same desk
  | .marker token => keeps.mark token desk
  | .block nodes | .again nodes => by
      have inside := keeps.walkAll desk.sheet.column
        { desk with hand := pen.enter desk.hand } nodes
      have throughout := keeps.next (keeps.enter desk) inside
      simp only [Render.walk, bind, Except.bind]
      generalize Render.walkAll pen spacing desk.sheet.column
        { desk with hand := pen.enter desk.hand } nodes = result at throughout
      cases result with
      | error stopped => exact throughout
      | ok done => exact keeps.leave throughout

theorem walkAll
    (keeps : Keeps pen spacing R)
    (base : Nat)
    (desk : Desk σ μ) :
    ∀ nodes : List Node, R desk (deskAfter (Render.walkAll pen spacing base desk nodes))
  | [] => keeps.same desk
  | node :: rest => by
      have first := keeps.walk base desk node
      simp only [Render.walkAll, bind, Except.bind]
      generalize Render.walk pen spacing base desk node = result at first
      cases result with
      | error stopped => exact first
      | ok next => exact keeps.next first (keeps.walkAll base next rest)

end

theorem walkDocument
    (keeps : Keeps pen spacing R)
    (desk : Desk σ μ)
    (document : Document) :
    R desk (deskAfter (Render.walkDocument pen spacing desk document)) := by
  have walked := keeps.walkAll 0 desk document.nodes
  simp only [Render.walkDocument, bind, Except.bind]
  generalize Render.walkAll pen spacing 0 desk document.nodes = result at walked
  cases result with
  | error stopped => exact walked
  | ok done => exact keeps.next walked (keeps.finish done)

end Keeps

end Splice.Render
