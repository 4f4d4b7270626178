import Splice.Document.Reference
import Splice.Proofs.Inversion

namespace Splice

/-!
# Every level of a document

A document owns the documents of its blocks, and references never leave the
sequence that they stand in.  So what makes a document sound is said of one
sequence at a time, and `EveryLevel` says it of the document and of every
document nested in it.
-/

namespace Document

/-- A property holds of a document and of every document nested in it. -/
inductive EveryLevel (P : Document → Prop) : Document → Prop where
  | intro {document : Document}
      (here : P document)
      (nested : ∀ inner, Operation.block inner ∈ document → EveryLevel P inner) :
      EveryLevel P document

/--
Every back-reference of one sequence counts back, by at least one, to a block of
that sequence.
-/
def ReferencesLand (document : Document) : Prop :=
  ∀ {index : Nat} {offset : Int},
    document[index]? = some (.back offset) →
    1 ≤ offset ∧ offset ≤ index ∧
      ∃ inner, document[(index - offset).toNat]? = some (.block inner)

/-- No text of one sequence holds a line feed. -/
def TextsFeedFree (document : Document) : Prop :=
  ∀ {operation : Operation} {text : Text},
    operation ∈ document → operation.text? = some text → '\n' ∉ text

/-- Every back-reference at every level stands for a block. -/
def Resolves (document : Document) : Prop :=
  document.EveryLevel ReferencesLand

/-- No text at any level holds a line feed. -/
def FeedFree (document : Document) : Prop :=
  document.EveryLevel TextsFeedFree

/-- Every text of one sequence has a property. -/
def TextsHold (P : Text → Prop) (document : Document) : Prop :=
  ∀ operation ∈ document, ∀ text, operation.text? = some text → P text

/-- What every document that was built from templates and values satisfies. -/
structure Sound (document : Document) : Prop where
  resolves : document.Resolves
  feedFree : document.FeedFree

/--
The references of a sequence land exactly when looking each of them up finds a
block.
-/
theorem referencesLand_iff
    {document : Document} :
    document.ReferencesLand ↔
      ∀ {index : Nat} {offset : Int},
        document[index]? = some (.back offset) →
        ∃ inner, resolve? document index offset = .ok inner := by
  constructor
  · intro land index offset reference
    obtain ⟨positive, within, inner, block⟩ := land reference
    exact ⟨inner, resolve?_eq_ok_iff.mpr ⟨by omega, within, block⟩⟩
  · intro found index offset reference
    obtain ⟨inner, resolved⟩ := found reference
    obtain ⟨positive, within, block⟩ := resolve?_eq_ok_iff.mp resolved
    exact ⟨by omega, within, inner, block⟩

/-- A reference that resolves goes on resolving behind other operations. -/
theorem resolve?_append_left
    (front : Document)
    {document inner : Document}
    {index : Nat}
    {offset : Int}
    (resolved : resolve? document index offset = .ok inner) :
    resolve? (front ++ document) (front.length + index : Nat) offset = .ok inner := by
  obtain ⟨positive, within, block⟩ := resolve?_eq_ok_iff.mp resolved
  have shifted :
      (((front.length + index : Nat) : Int) - offset).toNat =
        front.length + ((index : Int) - offset).toNat := by
    omega
  refine resolve?_eq_ok_iff.mpr ⟨positive, by omega, ?_⟩
  rw [shifted, List.getElem?_append_right (by omega), Nat.add_sub_cancel_left]
  exact block

/-- A block's content is smaller than the document that holds it. -/
theorem sizeOf_lt_of_block
    {document inner : Document}
    (member : Operation.block inner ∈ document) :
    sizeOf inner < sizeOf document := by
  have smaller := List.sizeOf_lt_of_mem member
  simp only [Operation.block.sizeOf_spec] at smaller
  omega

namespace EveryLevel

variable {P : Document → Prop} {document : Document}

theorem here (every : document.EveryLevel P) : P document := by
  cases every with
  | intro holds _ => exact holds

theorem nested
    (every : document.EveryLevel P)
    {inner : Document}
    (member : Operation.block inner ∈ document) :
    EveryLevel P inner := by
  cases every with
  | intro _ below => exact below inner member

theorem mono
    {Q : Document → Prop}
    (weaker : ∀ {inner : Document}, P inner → Q inner)
    (every : document.EveryLevel P) :
    EveryLevel Q document := by
  induction every with
  | intro holds _ inductionHypothesis => exact .intro (weaker holds) inductionHypothesis

/-- What holds of every document holds at every level. -/
theorem of_forall
    (holds : ∀ inner, P inner)
    (document : Document) :
    EveryLevel P document := by
  refine .intro (holds document) fun inner member => ?_
  have smaller := sizeOf_lt_of_block member
  exact of_forall holds inner
termination_by sizeOf document

/-- Joining documents keeps a property at every level when it keeps it at one. -/
theorem append
    (joins : ∀ {first second : Document}, P first → P second → P (first ++ second))
    {first second : Document}
    (firstEvery : first.EveryLevel P)
    (secondEvery : second.EveryLevel P) :
    EveryLevel P (first ++ second) := by
  refine .intro (joins firstEvery.here secondEvery.here) ?_
  intro inner member
  rcases List.mem_append.mp member with inFirst | inSecond
  · exact firstEvery.nested inFirst
  · exact secondEvery.nested inSecond

end EveryLevel

/--
References are relative, so those of the second of two joined sequences land where
they did before.
-/
theorem ReferencesLand.append
    {first second : Document}
    (firstLand : first.ReferencesLand)
    (secondLand : second.ReferencesLand) :
    ReferencesLand (first ++ second) := by
  intro index offset reference
  by_cases inFirst : index < first.length
  · rw [List.getElem?_append_left inFirst] at reference
    obtain ⟨positive, within, inner, block⟩ := firstLand reference
    refine ⟨positive, within, inner, ?_⟩
    rw [List.getElem?_append_left (by omega)]
    exact block
  · rw [List.getElem?_append_right (by omega)] at reference
    obtain ⟨positive, within, inner, block⟩ := secondLand reference
    refine ⟨positive, by omega, inner, ?_⟩
    have shifted :
        (index - offset).toNat - first.length =
          (((index - first.length : Nat) : Int) - offset).toNat := by
      omega
    rw [List.getElem?_append_right (by omega), shifted]
    exact block

theorem TextsFeedFree.append
    {first second : Document}
    (firstFree : first.TextsFeedFree)
    (secondFree : second.TextsFeedFree) :
    TextsFeedFree (first ++ second) := by
  intro operation text member
  rcases List.mem_append.mp member with inFirst | inSecond
  · exact firstFree inFirst
  · exact secondFree inSecond

namespace Sound

/--
A document of one operation that is neither a block nor a reference nor holds a line
feed.
-/
theorem singleton
    {operation : Operation}
    (notBlock : ∀ inner, operation ≠ .block inner)
    (notBack : ∀ offset, operation ≠ .back offset)
    (free : ∀ {text}, operation.text? = some text → '\n' ∉ text) :
    Sound [operation] := by
  have noBlock : ∀ inner, Operation.block inner ∉ [operation] := by
    intro inner member
    exact notBlock inner (List.mem_singleton.mp member).symm
  constructor
  · refine .intro ?_ fun inner member => (noBlock inner member).elim
    intro index offset reference
    have member := List.mem_of_getElem? reference
    exact (notBack offset (List.mem_singleton.mp member).symm).elim
  · refine .intro ?_ fun inner member => (noBlock inner member).elim
    intro found text member
    rw [List.mem_singleton.mp member]
    exact free

theorem empty : Sound [] :=
  ⟨.intro (by intro index offset reference; simp at reference) (by simp),
    .intro (by intro operation text member; simp at member) (by simp)⟩

theorem append
    {first second : Document}
    (firstSound : first.Sound)
    (secondSound : second.Sound) :
    Sound (first ++ second) where
  resolves := firstSound.resolves.append ReferencesLand.append secondSound.resolves
  feedFree := firstSound.feedFree.append TextsFeedFree.append secondSound.feedFree

end Sound

end Document

mutual

/-- The texts that an operation holds. -/
def Operation.texts : Operation → List Text
  | .fixed text | .owned text => [text]
  | .block operations => Document.texts operations
  | _ => []

/-- The texts of a document at all of its levels. -/
def Document.texts : Document → List Text
  | [] => []
  | operation :: rest => operation.texts ++ Document.texts rest

end

namespace Document

/-- A text of an operation is a text of the document. -/
theorem mem_texts
    {document : Document}
    {operation : Operation}
    (member : operation ∈ document)
    {text : Text}
    (inside : text ∈ operation.texts) :
    text ∈ texts document := by
  induction document with
  | nil => cases member
  | cons first rest inductionHypothesis =>
      rcases List.mem_cons.mp member with rfl | later
      · exact List.mem_append_left _ inside
      · exact List.mem_append_right _ (inductionHypothesis later)

/-- What all texts of a document have, the texts of each sequence have. -/
theorem everyLevel_of_texts
    {P : Text → Prop}
    (document : Document)
    (each : ∀ text ∈ texts document, P text) :
    document.EveryLevel (TextsHold P) := by
  refine .intro ?_ ?_
  · intro operation member text writes
    apply each text (mem_texts member _)
    cases operation <;> cases writes <;> exact List.mem_singleton_self _
  · intro inner member
    have smaller := sizeOf_lt_of_block member
    exact everyLevel_of_texts inner fun text inside => each text (mem_texts member inside)
termination_by sizeOf document

end Document

end Splice
