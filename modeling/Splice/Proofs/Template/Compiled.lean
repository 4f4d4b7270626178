import Splice.Proofs.Template.Assembly
import Splice.Proofs.Template.Pieces
import Splice.Template.Compile

namespace Splice.Template

/-!
# Compiled documents

Whichever way a text is compiled, behind its marker stand operations that were
assembled from its pieces.  Without arguments the pieces hold no name; with
arguments a name is bound to the document of the first value given for it.
-/

/-- A text that is not searched for names is assembled like any other. -/
theorem assembled_of_literals
    (literal : Text → Operation)
    (text : Text) :
    Assembled literal [] (pieces false text) (assembleLiterals literal text) where
  length := by simp [assembleLiterals]
  getElem? := by
    intro index
    unfold assembleLiterals
    rw [List.getElem?_map]
    cases there : (pieces false text)[index]? with
    | none => rfl
    | some piece =>
        cases piece with
        | newline => rfl
        | part cut =>
            cases cut with
            | literal written => rfl
            | placeholder name =>
                cases ((proper_pieces false text).use_of_getElem? there).1

/-- A bound name has the document of the first value that was given for it. -/
theorem value_of_bindAfter
    {known : List Text}
    {pairs : List (Text × Value Document)}
    {binding : Binding}
    (bound : bindAfter known pairs = .ok binding)
    {name : Text}
    {document : Document}
    (found : binding.lookup name = some document) :
    name ∉ known ∧
      ∃ value, pairs.lookup name = some value ∧ value.toDocument = .ok document := by
  induction pairs generalizing known binding with
  | nil =>
      cases bound
      cases found
  | cons pair rest inductionHypothesis =>
      obtain ⟨first, value⟩ := pair
      simp only [bindAfter] at bound
      by_cases isKnown : first ∈ known
      · simp only [List.contains_eq_mem, isKnown, decide_true, ↓reduceIte] at bound
        obtain ⟨notKnown, later, given, converted⟩ := inductionHypothesis bound found
        have different : (name == first) = false := by
          rw [beq_eq_false_iff_ne]
          rintro rfl
          exact notKnown isKnown
        exact ⟨notKnown, later, by simp [List.lookup_cons, different, given], converted⟩
      · simp only [List.contains_eq_mem, isKnown, decide_false, Bool.false_eq_true,
          ↓reduceIte] at bound
        cases conversion : value.toDocument with
        | error typeName =>
            rw [conversion] at bound
            cases bound
        | ok converted =>
            rw [conversion] at bound
            obtain ⟨others, boundRest, same⟩ := bind_eq_ok bound
            cases same
            by_cases isFirst : name = first
            · subst isFirst
              simp only [List.lookup_cons_self, Option.some.injEq] at found
              subst found
              exact ⟨isKnown, value, List.lookup_cons_self, conversion⟩
            · have different : (name == first) = false := by simp [isFirst]
              simp only [List.lookup_cons, different] at found
              obtain ⟨notKnown, later, given, laterConverted⟩ :=
                inductionHypothesis boundRest found
              simp only [List.mem_cons, not_or] at notKnown
              exact ⟨notKnown.2, later, by simp [List.lookup_cons, different, given],
                laterConverted⟩

/--
What compiling a text gives: a marker, if a place is known, and the operations of
its pieces.
-/
theorem assembled_of_compile
    {template : Text}
    {site : Option Token}
    {arguments : Option (List (Text × Value Document))}
    {compilation : Compilation}
    (compiled : compile template site arguments = .ok compilation) :
    ∃ binding operations,
      compilation.document = markers site ++ operations ∧
      Assembled .fixed binding (pieces arguments.isSome template) operations ∧
      ∀ {name document}, binding.lookup name = some document →
        ∃ pairs value, arguments = some pairs ∧
          pairs.lookup name = some value ∧ value.toDocument = .ok document := by
  cases arguments with
  | none =>
      cases compiled
      exact ⟨[], _, rfl, assembled_of_literals .fixed template, by simp⟩
  | some pairs =>
      obtain ⟨binding, bound, assembling⟩ := bind_eq_ok compiled
      simp only at assembling
      cases assembled :
          assemble .fixed binding (markers site).length [] (pieces true template) with
      | error name =>
          rw [assembled] at assembling
          cases assembling
      | ok operations =>
          rw [assembled] at assembling
          cases assembling
          refine ⟨binding, operations, rfl, assembled_of_assemble assembled, ?_⟩
          intro name document found
          obtain ⟨_, value, given, converted⟩ := value_of_bindAfter bound found
          exact ⟨pairs, value, rfl, given, converted⟩

end Splice.Template
