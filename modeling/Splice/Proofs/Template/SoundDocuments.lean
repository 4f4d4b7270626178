import Splice.Proofs.Number.Notation
import Splice.Proofs.Template.Compiled

namespace Splice

/-!
# Documents from values and templates are sound

Assembling places a block before every reference to it and counts the distance at
once, so the operations of a template are sound when the documents bound to its
names are.  The document of a value is sound, or it existed before.
-/

namespace Template

/--
Operations that stand for properly cut pieces are sound when the documents bound to the
names among them are.
-/
theorem Assembled.sound
    {literal : Text → Operation}
    {binding : Binding}
    {scan : Bool}
    {cut : List Piece}
    {operations : Document}
    (writes : ∀ text, (literal text).text? = some text)
    (assembled : Assembled literal binding cut operations)
    (proper : Piece.Proper scan cut)
    (boundSound : ∀ {name document},
      .use name ∈ cut → binding.lookup name = some document → document.Sound) :
    Document.Sound operations := by
  have innerSound : ∀ inner, Operation.block inner ∈ operations → Document.Sound inner := by
    intro inner member
    obtain ⟨index, block⟩ := List.mem_iff_getElem?.mp member
    obtain ⟨name, there, _, bound⟩ := assembled.of_block writes block
    exact boundSound (List.mem_of_getElem? there) bound
  constructor
  · refine .intro ?_ fun inner member => (innerSound inner member).resolves
    intro index offset reference
    obtain ⟨name, first, inner, _, _, before, distance, block⟩ :=
      assembled.of_back writes reference
    have target : ((index : Int) - offset).toNat = first := by omega
    exact ⟨by omega, by omega, inner, by rw [target]; exact block⟩
  · refine .intro ?_ fun inner member => (innerSound inner member).feedFree
    intro operation text member textual
    obtain ⟨index, there⟩ := List.mem_iff_getElem?.mp member
    obtain ⟨pieceThere, _⟩ := assembled.of_text writes there textual
    exact (proper.literal_of_mem (List.mem_of_getElem? pieceThere)).2.1

/-- A text in which a dollar sign means nothing special gives a sound document. -/
theorem sound_assembleLiterals
    {literal : Text → Operation}
    (writes : ∀ text, (literal text).text? = some text)
    (text : Text) :
    Document.Sound (assembleLiterals literal text) :=
  (assembled_of_literals literal text).sound writes (proper_pieces false text) (by simp)

theorem sound_markers (site : Option Token) : Document.Sound (markers site) := by
  cases site with
  | none => exact .empty
  | some token => exact .singleton (by simp) (by simp) (by simp [Operation.text?])

/-- What is compiled is sound when the documents of its arguments are. -/
theorem sound_of_compile
    {template : Text}
    {site : Option Token}
    {arguments : Option (List (Text × Value Document))}
    {compilation : Compilation}
    (compiled : compile template site arguments = .ok compilation)
    (argumentSound : ∀ {pairs name value document},
      arguments = some pairs → (name, value) ∈ pairs →
      value.toDocument = .ok document → document.Sound) :
    compilation.document.Sound := by
  obtain ⟨binding, operations, shape, assembled, given⟩ := assembled_of_compile compiled
  rw [shape]
  refine (sound_markers site).append ?_
  refine assembled.sound (fun _ => rfl) (proper_pieces _ template) ?_
  intro name document _ bound
  obtain ⟨pairs, value, isGiven, found, converted⟩ := given bound
  obtain ⟨before, after, split, _⟩ := List.lookup_eq_some_iff.mp found
  have member : (name, value) ∈ pairs := by simp [split]
  exact argumentSound isGiven member converted

end Template

/-- The document of a text that arose at run time is sound. -/
theorem Document.sound_ofText (text : Text) : (Document.ofText text).Sound :=
  Template.sound_assembleLiterals (fun _ => rfl) text

namespace Value

variable {δ ε : Type}

/-- A document that is made of a value is sound. -/
theorem sound_of_convert
    {value : Value δ}
    {document : Document}
    (made : value.convert = .ok (.inr document)) :
    document.Sound := by
  cases value with
  | bool b =>
      cases made
      refine .singleton (by simp) (by simp) ?_
      intro text writes
      cases writes
      cases b <;> decide
  | int n =>
      cases made
      refine .singleton (by simp) (by simp) ?_
      intro text writes
      cases writes
      exact (blankFree_intText n).not_feed
  | float x =>
      cases made
      refine .singleton (by simp) (by simp) ?_
      intro text writes
      cases writes
      exact x.blankFree_text.not_feed
  | text t =>
      cases made
      exact Document.sound_ofText t
  | convertible result => cases result <;> cases made
  | _ => cases made

theorem convert_map
    (f : δ → ε)
    (value : Value δ) :
    (value.map f).convert = value.convert.map (Sum.map f id) := by
  cases value with
  | convertible result => cases result <;> rfl
  | _ => rfl

end Value

end Splice
