import Splice.Document.Conversion

namespace Splice

/-!
# Drafts

A draft is a document that grows in place.  Whoever holds the draft sees it grow;
a document that was made from what the draft held at some moment does not change
with it.  Appending touches one draft only (`read_append_of_ne`), and what it adds
is what the other document held before (`read_append_self`).
-/

/-- The identity of a document that can grow. -/
structure Draft where
  number : Nat
  deriving DecidableEq

/-- All drafts with what they hold. -/
structure Drafts where
  documents : Array Document := #[]

namespace Drafts

/-- What a draft holds; a draft that was never begun holds nothing. -/
def read (drafts : Drafts) (draft : Draft) : Document :=
  drafts.documents[draft.number]?.getD []

/-- Begin a draft that holds a document. -/
def begin (drafts : Drafts) (document : Document) : Draft × Drafts :=
  (⟨drafts.documents.size⟩, ⟨drafts.documents.push document⟩)

/-- Let a draft grow by a document. -/
def append (drafts : Drafts) (draft : Draft) (more : Document) : Drafts :=
  ⟨drafts.documents.modify draft.number fun document => document ++ more⟩

/-- A value with what its drafts hold at this moment. -/
def settle (drafts : Drafts) (value : Value Draft) : Value Document :=
  value.map drafts.read

/-- What a value is as a draft: one that exists already, or a new one. -/
def convert (drafts : Drafts) (value : Value Draft) : Except String (Draft × Drafts) :=
  value.convert.map fun
    | .inl draft => (draft, drafts)
    | .inr document => drafts.begin document

/-- Whether a draft was begun. -/
def holds (drafts : Drafts) (draft : Draft) : Prop :=
  draft.number < drafts.documents.size

/-- A new draft holds what it was begun with. -/
theorem read_begin_self
    (drafts : Drafts)
    (document : Document) :
    (drafts.begin document).2.read (drafts.begin document).1 = document := by
  simp [begin, read]

/-- Beginning a draft leaves those begun earlier alone. -/
theorem read_begin_of_holds
    {drafts : Drafts}
    {draft : Draft}
    (held : drafts.holds draft)
    (document : Document) :
    (drafts.begin document).2.read draft = drafts.read draft := by
  unfold holds at held
  have earlier : draft.number ≠ drafts.documents.size := by omega
  simp [begin, read, Array.getElem?_push, earlier]

/-- A draft grows by what is appended to it. -/
theorem read_append_self
    {drafts : Drafts}
    {draft : Draft}
    (held : drafts.holds draft)
    (more : Document) :
    (drafts.append draft more).read draft = drafts.read draft ++ more := by
  unfold holds at held
  simp [append, read, held, Array.getElem_modify_self]

/-- Appending to one draft leaves the others alone. -/
theorem read_append_of_ne
    {drafts : Drafts}
    {draft other : Draft}
    (different : other ≠ draft)
    (more : Document) :
    (drafts.append draft more).read other = drafts.read other := by
  have apart : draft.number ≠ other.number := by
    intro equal
    exact different (by cases draft; cases other; simp_all)
  simp [append, read, Array.getElem?_modify, apart]

end Drafts

end Splice
