import Splice.Proofs.FirstUse
import Splice.Proofs.Template.Compiled
import Splice.Proofs.Template.Scanning

namespace Splice.Template

/-!
# Which name a template lacks

Compiling goes through the names of a template in their order and stops at the first that
no argument has.  What arguments are bound to does not matter for that, and a template whose
names all have one compiles.
-/

section

variable {known : List Text} {pairs : List (Text × Value Document)} {binding : Binding}

/-- Arguments can be bound when the value that counts for each name has a document. -/
theorem exists_bindAfter
    (convertible : ∀ {name value},
      name ∉ known → pairs.lookup name = some value → ∃ document, value.toDocument = .ok document) :
    ∃ binding, bindAfter known pairs = .ok binding := by
  induction pairs generalizing known with
  | nil => exact ⟨[], rfl⟩
  | cons pair rest inductionHypothesis =>
      rcases pair with ⟨first, value⟩
      have later {name : Text} (different : name ≠ first) :
          ((first, value) :: rest).lookup name = rest.lookup name := by
        rw [List.lookup_cons, beq_eq_false_iff_ne.mpr different]
      by_cases isKnown : first ∈ known
      · rw [bindAfter, List.contains_eq_mem, decide_eq_true isKnown, if_pos rfl]
        apply inductionHypothesis
        intro name found new given
        have different : name ≠ first := by
          rintro rfl
          exact new isKnown
        exact convertible new ((later different).trans given)
      · rcases convertible isKnown List.lookup_cons_self with ⟨document, converted⟩
        have restBinds : ∃ others, bindAfter (first :: known) rest = .ok others := by
          apply inductionHypothesis
          intro name found new given
          rw [List.mem_cons, not_or] at new
          exact convertible new.2 ((later new.1).trans given)
        rcases restBinds with ⟨others, boundRest⟩
        refine ⟨(first, document) :: others, ?_⟩
        rw [bindAfter, List.contains_eq_mem, decide_eq_false isKnown]
        simp only [Bool.false_eq_true, ↓reduceIte, converted, boundRest]
        rfl

/-- Only an argument without a document keeps arguments from being bound. -/
theorem unconvertible_of_bindAfter
    {fault : Fault}
    (refused : bindAfter known pairs = .error fault) :
    ∃ typeName, fault = .unconvertible typeName := by
  induction pairs generalizing known with
  | nil => cases refused
  | cons pair rest inductionHypothesis =>
      rcases pair with ⟨first, value⟩
      rw [bindAfter] at refused
      split at refused
      · exact inductionHypothesis refused
      · cases conversion : value.toDocument with
        | error typeName =>
            rw [conversion] at refused
            cases refused
            exact ⟨typeName, rfl⟩
        | ok document =>
            rw [conversion] at refused
            cases tail : bindAfter (first :: known) rest with
            | error other =>
                rw [tail] at refused
                cases refused
                exact inductionHypothesis tail
            | ok others =>
                rw [tail] at refused
                cases refused

/-- The bound names are those of the arguments, each once and in that order. -/
theorem map_fst_bindAfter
    (bound : bindAfter known pairs = .ok binding) :
    binding.map Prod.fst =
      ((pairs.map Prod.fst).filter fun name => !known.contains name).eraseDups := by
  induction pairs generalizing known binding with
  | nil =>
      cases bound
      rfl
  | cons pair rest inductionHypothesis =>
      rcases pair with ⟨first, value⟩
      rw [bindAfter] at bound
      by_cases isKnown : first ∈ known
      · rw [List.contains_eq_mem, decide_eq_true isKnown, if_pos rfl] at bound
        simpa [isKnown] using inductionHypothesis bound
      · rw [List.contains_eq_mem, decide_eq_false isKnown] at bound
        cases conversion : value.toDocument with
        | error typeName => simp [conversion] at bound
        | ok document =>
            simp only [Bool.false_eq_true, ↓reduceIte, conversion] at bound
            rcases bind_eq_ok bound with ⟨others, boundRest, same⟩
            cases same
            have tail := inductionHypothesis boundRest
            have apart :
                ((rest.map Prod.fst).filter fun name => !(first :: known).contains name) =
                  ((rest.map Prod.fst).filter fun name => !known.contains name).filter
                    fun name => !name == first := by
              simp only [List.filter_filter, List.contains_cons, Bool.not_or]
            have isNew : (!known.contains first) = true := by simp [isKnown]
            rw [List.map_cons, tail, apart, List.map_cons, List.filter_cons, if_pos isNew,
              List.eraseDups_cons]

end

theorem isSome_lookup_iff
    {α : Type}
    {entries : List (Text × α)}
    {name : Text} :
    (entries.lookup name).isSome = true ↔ name ∈ entries.map Prod.fst := by
  rw [List.lookup_isSome_iff, List.mem_map]
  constructor
  · rintro ⟨entry, member, same⟩
    exact ⟨entry, member, (beq_iff_eq.mp same).symm⟩
  · rintro ⟨entry, member, same⟩
    exact ⟨entry, member, beq_iff_eq.mpr same.symm⟩

section

variable {pairs : List (Text × Value Document)} {binding : Binding} {name : Text}

theorem mem_map_fst_bindAfter
    (bound : bindAfter [] pairs = .ok binding) :
    name ∈ binding.map Prod.fst ↔ name ∈ pairs.map Prod.fst := by
  rw [map_fst_bindAfter bound, List.mem_eraseDups]
  simp

end

/-- The first of some names that is not among the known ones. -/
def unbound? (known names : List Text) : Option Text :=
  names.find? fun name => !known.contains name

theorem unbound?_congr
    {known others : List Text}
    (same : ∀ name, name ∈ known ↔ name ∈ others)
    (names : List Text) :
    unbound? known names = unbound? others names := by
  unfold unbound?
  congr 1
  funext name
  simp only [List.contains_eq_mem, same]

theorem unbound?_eq_none_iff
    {known names : List Text} :
    unbound? known names = none ↔ ∀ name ∈ names, name ∈ known := by
  simp [unbound?]

/-- A result that is refused for a name, or for none. -/
def Refused (refused : Option Text) (result : Except Text Document) : Prop :=
  match refused with
  | none => ∃ operations, result = .ok operations
  | some name => result = .error name

theorem Refused.cons
    {refused : Option Text}
    {result : Except Text Document}
    (isRefused : Refused refused result)
    (operation : Operation) :
    Refused refused (do
      let others ← result
      return operation :: others) := by
  cases refused with
  | none =>
      rcases isRefused with ⟨operations, rfl⟩
      exact ⟨operation :: operations, rfl⟩
  | some name =>
      cases isRefused
      rfl

theorem unbound?_cons
    (known : List Text)
    (name : Text)
    (rest : List Text) :
    unbound? known (name :: rest) = if name ∈ known then unbound? known rest else some name := by
  by_cases isKnown : name ∈ known <;> simp [unbound?, isKnown]

/-- Assembling is stopped by the first name that nothing is bound to, and by nothing else. -/
theorem refused_assemble
    {literal : Text → Operation}
    {binding : Binding}
    {index : Nat}
    {placed : Placed}
    (placedBound : ∀ {name position},
      placed.lookup name = some position → name ∈ binding.map Prod.fst)
    (cut : List Piece) :
    Refused (unbound? (binding.map Prod.fst) (cut.filterMap Piece.name?))
      (assemble literal binding index placed cut) := by
  induction cut generalizing index placed with
  | nil => exact ⟨[], rfl⟩
  | cons piece rest inductionHypothesis =>
      cases piece with
      | newline => exact (inductionHypothesis placedBound).cons .newline
      | part cut =>
          cases cut with
          | literal text => exact (inductionHypothesis placedBound).cons (literal text)
          | placeholder name =>
              have names :
                  (Piece.use name :: rest).filterMap Piece.name? =
                    name :: rest.filterMap Piece.name? := rfl
              rw [names, unbound?_cons, assemble]
              cases isPlaced : placed.lookup name with
              | some position =>
                  rw [if_pos (placedBound isPlaced)]
                  exact (inductionHypothesis placedBound).cons _
              | none =>
                  cases isBound : binding.lookup name with
                  | none =>
                      have unknown : name ∉ binding.map Prod.fst := by
                        rw [← isSome_lookup_iff, isBound]
                        simp
                      rw [if_neg unknown]
                      rfl
                  | some document =>
                      have known : name ∈ binding.map Prod.fst :=
                        isSome_lookup_iff.mp (by rw [isBound]; rfl)
                      rw [if_pos known]
                      refine Refused.cons (inductionHypothesis ?_) (.block document)
                      intro other position found
                      by_cases same : other = name
                      · rw [same]
                        exact known
                      · rw [List.lookup_cons, beq_eq_false_iff_ne.mpr same] at found
                        exact placedBound found

/-- What a template compiles to, or the first of its names that no argument has. -/
theorem compile_of_bindAfter
    {pairs : List (Text × Value Document)}
    {binding : Binding}
    (bound : bindAfter [] pairs = .ok binding)
    (template : Text)
    (site : Option Token) :
    match unbound? (pairs.map Prod.fst) (names template) with
    | none => ∃ operations,
        compile template site (some pairs) =
          .ok ⟨markers site ++ operations,
            (binding.map Prod.fst).filter fun name => !(names template).contains name,
            binding.length⟩
    | some name =>
        compile template site (some pairs) = .error (.unresolved name (some template) site) := by
  have refused : Refused _ (assemble .fixed binding (markers site).length []
      (pieces true template)) :=
    refused_assemble (fun found => by cases found) _
  rw [filterMap_name?_pieces, unbound?_congr fun name => mem_map_fst_bindAfter bound] at refused
  cases lacks : unbound? (pairs.map Prod.fst) (names template) with
  | none =>
      rw [lacks] at refused
      rcases refused with ⟨operations, assembled⟩
      refine ⟨operations, ?_⟩
      simp only [compile, bound, bind, Except.bind, assembled, filterMap_name?_pieces]
      rfl
  | some name =>
      rw [lacks] at refused
      have assembled :
          assemble .fixed binding (markers site).length [] (pieces true template) =
            .error name := refused
      simp only [compile, bound, bind, Except.bind, assembled]

/-- A template compiles when each of its names has an argument with a document. -/
theorem exists_compile
    {pairs : List (Text × Value Document)}
    {template : Text}
    (bound : ∀ name ∈ placeholders template, name ∈ pairs.map Prod.fst)
    (convertible : ∀ {name value},
      pairs.lookup name = some value → ∃ document, value.toDocument = .ok document)
    (site : Option Token) :
    ∃ compilation, compile template site (some pairs) = .ok compilation := by
  have binds : ∃ binding, bindAfter [] pairs = .ok binding :=
    exists_bindAfter fun _ given => convertible given
  rcases binds with ⟨binding, bindings⟩
  have outcome := compile_of_bindAfter bindings template site
  have nothingLacks : unbound? (pairs.map Prod.fst) (names template) = none := by
    rw [unbound?_eq_none_iff]
    intro name member
    exact bound name (mem_placeholders_iff.mpr member)
  rw [nothingLacks] at outcome
  rcases outcome with ⟨_, compiled⟩
  exact ⟨_, compiled⟩

end Splice.Template
