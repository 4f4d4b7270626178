import Splice.Proofs.Template.Binding

namespace Splice

/-!
# Why a template does not compile

Of a name that is given more than once only the first value counts, and `counted` leaves
the others out.  The first value that counts and has no document refuses the template,
whatever the template says.  Behind that stands the first placeholder without an argument,
and nothing else: `refusal?` looks for the two, one after the other, and compiling gives the
fault that it finds.
-/

/-- Whether a value has a document form. -/
def Value.hasDocument (value : Value Document) : Bool :=
  value.toDocument.isOk

namespace Template

/-- The arguments that count: those whose name no earlier argument has. -/
def counted (pairs : List (Text × Value Document)) : List (Text × Value Document) :=
  pairs.eraseDupsBy fun later earlier => later.1 == earlier.1

/-- Why a template does not compile with some arguments, if anything is wrong. -/
def refusal?
    (template : Text)
    (site : Option Token)
    (pairs : List (Text × Value Document)) :
    Option Fault :=
  match (counted pairs).find? fun pair => !pair.2.hasDocument with
  | some (_, value) => some (.unconvertible value.typeName)
  | none =>
      ((placeholders template).find? fun name => !(pairs.map Prod.fst).contains name).map
        fun name => .unresolved name (some template) site

/-- Bind every name to the document of its value. -/
def bindEach : List (Text × Value Document) → Except Fault Binding
  | [] => .ok []
  | (name, value) :: rest =>
      match value.toDocument with
      | .error typeName => .error (.unconvertible typeName)
      | .ok document => do
          let others ← bindEach rest
          return (name, document) :: others

section

variable (pair : Text × Value Document) (pairs : List (Text × Value Document))

/-- Counting keeps the first pair and drops those of its name behind it. -/
theorem counted_cons_filter :
    counted (pair :: pairs) = pair :: counted (pairs.filter fun later => !later.1 == pair.1) := by
  simp only [counted, List.eraseDupsBy_cons, Bool.decide_eq_false]

/-- Whether an argument counts does not depend on the arguments with other names. -/
theorem counted_filter
    (keep : Text → Bool) :
    ∀ pairs : List (Text × Value Document),
      counted (pairs.filter fun pair => keep pair.1) =
        (counted pairs).filter fun pair => keep pair.1
  | [] => rfl
  | first :: rest => by
      have fewer := counted_filter keep (rest.filter fun later => !later.1 == first.1)
      rw [counted_cons_filter]
      by_cases kept : keep first.1
      · rw [List.filter_cons_of_pos (by exact kept), List.filter_cons_of_pos (by exact kept),
          counted_cons_filter, ← fewer, List.filter_filter, List.filter_filter]
        simp only [Bool.and_comm]
      · -- What is kept has another name than the first argument.
        have apart : (rest.filter fun later => keep later.1 && !later.1 == first.1) =
            rest.filter fun later => keep later.1 := by
          apply List.filter_congr
          intro later _
          by_cases same : later.1 = first.1 <;> simp [same, kept]
        rw [List.filter_cons_of_neg (by exact kept), List.filter_cons_of_neg (by exact kept),
          ← fewer, List.filter_filter, apart]
termination_by pairs => pairs.length
decreasing_by exact Nat.lt_succ_of_le (List.length_filter_le _ rest)

theorem counted_cons :
    counted (pair :: pairs) =
      pair :: (counted pairs).filter fun later => !later.1 == pair.1 := by
  rw [counted_cons_filter, counted_filter fun name => !name == pair.1]

theorem counted_counted : counted (counted pairs) = counted pairs := by
  induction pairs with
  | nil => rfl
  | cons pair rest inductionHypothesis =>
      rw [counted_cons, counted_cons, counted_filter fun name => !name == pair.1,
        inductionHypothesis, List.filter_filter]
      simp only [Bool.and_self]

/-- The arguments whose names are not known yet. -/
def fresh (known : List Text) : List (Text × Value Document) :=
  pairs.filter fun pair => !known.contains pair.1

theorem fresh_cons
    (known : List Text) :
    fresh (pair :: pairs) known =
      if pair.1 ∈ known then fresh pairs known else pair :: fresh pairs known := by
  by_cases isKnown : pair.1 ∈ known <;> simp [fresh, isKnown]

/-- Names dropped from the pairs are known ones. -/
theorem fresh_filter
    (known : List Text)
    (name : Text) :
    fresh (pairs.filter fun later => !later.1 == name) known = fresh pairs (name :: known) := by
  rw [fresh, List.filter_filter]
  apply List.filter_congr
  intro later _
  by_cases same : later.1 = name <;> simp [same]

theorem fresh_cons_of_mem
    {known : List Text}
    {name : Text}
    (isKnown : name ∈ known) :
    fresh pairs (name :: known) = fresh pairs known := by
  apply List.filter_congr
  intro later _
  by_cases same : later.1 = name <;> simp [same, isKnown]

/-- Binding arguments converts the values that count, in order, and no others. -/
theorem bindAfter_eq_bindEach
    (known : List Text) :
    bindAfter known pairs = bindEach (fresh (counted pairs) known) := by
  induction pairs generalizing known with
  | nil => rfl
  | cons pair rest inductionHypothesis =>
      rcases pair with ⟨name, value⟩
      rw [counted_cons, fresh_cons, fresh_filter, bindAfter, List.contains_eq_mem,
        inductionHypothesis known, inductionHypothesis (name :: known)]
      by_cases isKnown : name ∈ known
      · rw [decide_eq_true isKnown, if_pos rfl, if_pos isKnown, fresh_cons_of_mem _ isKnown]
      · rw [decide_eq_false isKnown, if_neg isKnown, bindEach]
        rfl

theorem bindAfter_nil :
    bindAfter [] pairs = bindEach (counted pairs) := by
  rw [bindAfter_eq_bindEach, fresh]
  simp

end

/-- A value that becomes no document is refused by the name of its type. -/
theorem typeName_of_toDocument
    {value : Value Document}
    {typeName : String}
    (failed : value.toDocument = .error typeName) :
    typeName = value.typeName := by
  cases value with
  | convertible result => cases result <;> cases failed <;> rfl
  | _ => cases failed <;> rfl

/-- Binding stops at the first value that has no document, and at nothing else. -/
theorem bindEach_outcome
    (pairs : List (Text × Value Document)) :
    match pairs.find? fun pair => !pair.2.hasDocument with
    | some (_, value) => bindEach pairs = .error (.unconvertible value.typeName)
    | none => ∃ binding, bindEach pairs = .ok binding := by
  induction pairs with
  | nil => exact ⟨[], rfl⟩
  | cons pair rest inductionHypothesis =>
      rcases pair with ⟨name, value⟩
      rw [List.find?_cons, bindEach]
      cases converted : value.toDocument with
      | error typeName =>
          have lacks : value.hasDocument = false := by
            rw [Value.hasDocument, converted]
            rfl
          simp only [lacks, Bool.not_false]
          rw [typeName_of_toDocument converted]
      | ok document =>
          have has : value.hasDocument = true := by
            rw [Value.hasDocument, converted]
            rfl
          simp only [has, Bool.not_true]
          cases found : rest.find? fun pair => !pair.2.hasDocument with
          | some other =>
              rw [found] at inductionHypothesis
              simp only at inductionHypothesis ⊢
              rw [inductionHypothesis]
              rfl
          | none =>
              rw [found] at inductionHypothesis
              rcases inductionHypothesis with ⟨others, bound⟩
              simp only [bound]
              exact ⟨_, rfl⟩

/--
Compiling a template gives exactly the fault that is looked for: first a value that counts
and has no document, then a placeholder without an argument.  Values that do not count
leave no trace in what is compiled, and without arguments nothing can go wrong.
-/
theorem compile_refused_exactly
    (template : Text)
    (site : Option Token) :
    (∀ pairs,
      match refusal? template site pairs with
      | some fault => compile template site (some pairs) = .error fault
      | none => ∃ compilation, compile template site (some pairs) = .ok compilation) ∧
    (∀ pairs,
      compile template site (some pairs) = compile template site (some (counted pairs))) ∧
    ∃ compilation, compile template site none = .ok compilation := by
  refine ⟨?_, ?_, _, rfl⟩
  · intro pairs
    have bindings := bindEach_outcome (counted pairs)
    rw [← bindAfter_nil] at bindings
    unfold refusal?
    cases lacks : (counted pairs).find? fun pair => !pair.2.hasDocument with
    | some pair =>
        rw [lacks] at bindings
        simp only [compile, bindings]
        rfl
    | none =>
        rw [lacks] at bindings
        rcases bindings with ⟨binding, bound⟩
        have outcome := compile_of_bindAfter bound template site
        rw [unbound?, ← find?_eraseDups, ← placeholders_eq_eraseDups] at outcome
        simp only
        cases missing : (placeholders template).find? fun name =>
            !(pairs.map Prod.fst).contains name with
        | some name =>
            rw [missing] at outcome
            exact outcome
        | none =>
            rw [missing] at outcome
            rcases outcome with ⟨_, compiled⟩
            exact ⟨_, compiled⟩
  · intro pairs
    simp only [compile, bindAfter_nil, counted_counted]

example :
    refusal? "$c $a".toList none
        [("b".toList, .text "1".toList), ("b".toList, .null), ("a".toList, .list [])] =
      some (.unconvertible "list") := by
  decide +kernel

end Template

end Splice
