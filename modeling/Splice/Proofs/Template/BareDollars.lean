import Splice.Proofs.Template.Refusals

namespace Splice.Template

/-!
# Dollar signs without a name

A dollar sign that no name character follows is a placeholder like any other, and its name is
empty (`nil_mem_placeholders_iff`).  So a template that has one is refused unless an argument
has the empty name (`refused_of_bareDollar`), and then nothing tells it from a placeholder that
has a name (`compile_unnamed`).
-/

/-- Somewhere in a text a dollar sign stands with no name character behind it. -/
def BareDollar (text : Text) : Prop :=
  ∃ front back, text = front ++ '$' :: back ∧ ∀ c, back.head? = some c → isNameChar c = false

theorem BareDollar.behind
    {text : Text}
    (bare : BareDollar text)
    (before : Text) :
    BareDollar (before ++ text) := by
  rcases bare with ⟨front, back, rfl, unnamed⟩
  exact ⟨before ++ front, back, (List.append_assoc _ _ _).symm, unnamed⟩

/-- A name is empty when its dollar sign is bare. -/
theorem takeWhile_eq_nil_iff
    {back : Text} :
    back.takeWhile isNameChar = [] ↔ ∀ c, back.head? = some c → isNameChar c = false := by
  cases back with
  | nil => simp
  | cons c rest => cases isName : isNameChar c <;> simp [isName]

theorem bareDollar_of_nil_mem_names
    {text : Text}
    (member : [] ∈ names text) :
    BareDollar text := by
  unfold names at member
  fun_induction scan (fun _ => []) (fun name => [name]) text with
  | case1 => cases member
  | case2 rest inductionHypothesis =>
      rcases List.mem_append.mp member with first | later
      · exact ⟨[], rest, rfl, takeWhile_eq_nil_iff.mp (List.mem_singleton.mp first).symm⟩
      · have behindName := (inductionHypothesis later).behind ('$' :: rest.takeWhile isNameChar)
        rwa [List.cons_append, List.takeWhile_append_dropWhile] at behindName
  | case3 c rest notDollar inductionHypothesis =>
      exact (inductionHypothesis member).behind [c]

/-- The empty name is a placeholder's exactly where a dollar sign is bare. -/
theorem nil_mem_placeholders_iff
    {text : Text} :
    [] ∈ placeholders text ↔ BareDollar text := by
  rw [mem_placeholders_iff]
  constructor
  · exact bareDollar_of_nil_mem_names
  · rintro ⟨front, back, rfl, unnamed⟩
    rw [names, scan_append (by decide), scan_dollar, takeWhile_eq_nil_iff.mpr unnamed]
    simp

/-- Arguments that all have documents can be bound. -/
theorem exists_bindAfter_of_hasDocument
    {pairs : List (Text × Value Document)}
    (convertible : ∀ pair ∈ pairs, pair.2.hasDocument = true) :
    ∃ binding, bindAfter [] pairs = .ok binding := by
  apply exists_bindAfter
  intro name value _ given
  rcases List.lookup_eq_some_iff.mp given with ⟨before, after, shape, _⟩
  have has := convertible (name, value) (by simp [shape])
  unfold Value.hasDocument at has
  cases converted : value.toDocument with
  | ok document => exact ⟨document, rfl⟩
  | error typeName => rw [converted] at has; cases has

theorem unbound?_placeholders
    (known : List Text)
    (template : Text) :
    unbound? known (placeholders template) = unbound? known (names template) := by
  rw [unbound?, unbound?, placeholders_eq_eraseDups, find?_eraseDups]

/--
A template with a bare dollar sign needs an argument of the empty name.  Without one it is
refused, whatever else is given, and the fault names the first placeholder that no argument
has; and it compiles exactly when there is one and all other placeholders have theirs.
-/
theorem refused_of_bareDollar
    {template : Text}
    (bare : BareDollar template)
    {pairs : List (Text × Value Document)}
    (convertible : ∀ pair ∈ pairs, pair.2.hasDocument = true)
    (site : Option Token) :
    ([] ∉ pairs.map Prod.fst →
      ∃ name,
        unbound? (pairs.map Prod.fst) (placeholders template) = some name ∧
        compile template site (some pairs) = .error (.unresolved name (some template) site)) ∧
    ((∃ compilation, compile template site (some pairs) = .ok compilation) ↔
      [] ∈ pairs.map Prod.fst ∧
        ∀ name ∈ placeholders template, name ≠ [] → name ∈ pairs.map Prod.fst) := by
  have unnamed := nil_mem_placeholders_iff.mpr bare
  rcases exists_bindAfter_of_hasDocument convertible with ⟨binding, bound⟩
  have outcome := compile_of_bindAfter bound template site
  rw [← unbound?_placeholders] at outcome
  cases lacks : unbound? (pairs.map Prod.fst) (placeholders template) with
  | some name =>
      rw [lacks] at outcome
      refine ⟨fun _ => ⟨name, rfl, outcome⟩, ?_, ?_⟩
      · rintro ⟨compilation, compiled⟩
        cases compiled.symm.trans outcome
      · rintro ⟨givenUnnamed, givenNamed⟩
        have allGiven : ∀ other ∈ placeholders template, other ∈ pairs.map Prod.fst := by
          intro other member
          by_cases isNil : other = []
          · exact isNil ▸ givenUnnamed
          · exact givenNamed other member isNil
        cases lacks.symm.trans (unbound?_eq_none_iff.mpr allGiven)
  | none =>
      have allGiven := unbound?_eq_none_iff.mp lacks
      rw [lacks] at outcome
      rcases outcome with ⟨_, compiled⟩
      exact ⟨fun noUnnamed => (noUnnamed (allGiven [] unnamed)).elim,
        fun _ => ⟨allGiven [] unnamed, fun name member _ => allGiven name member⟩,
        fun _ => ⟨_, compiled⟩⟩

/-- A template with a bare dollar sign behind a placeholder. -/
def bareCost : Text :=
  "$item costs $ 5".toList

theorem bareDollar_bareCost : BareDollar bareCost :=
  ⟨"$item costs ".toList, " 5".toList, rfl, takeWhile_eq_nil_iff.mp (by decide)⟩

/-- Arguments for `bareCost`, none of which the bare dollar sign can stand for. -/
def namedArguments : List (Text × Value Document) :=
  [("item".toList, .text "tea".toList), ("5".toList, .int 5)]

/-- The fault of `bareCost` is about the bare dollar sign, as the other placeholder has a value. -/
theorem refused_bareCost :
    BareDollar bareCost ∧ (∀ pair ∈ namedArguments, pair.2.hasDocument = true) ∧
    [] ∉ namedArguments.map Prod.fst ∧
    compile bareCost none (some namedArguments) =
      .error (.unresolved [] (some bareCost) none) := by
  have convertible : ∀ pair ∈ namedArguments, pair.2.hasDocument = true := by decide +kernel
  have noUnnamed : [] ∉ namedArguments.map Prod.fst := by decide
  have firstLack :
      unbound? (namedArguments.map Prod.fst) (placeholders bareCost) = some [] := by
    decide +kernel
  rcases (refused_of_bareDollar bareDollar_bareCost convertible none).1 noUnnamed with
    ⟨name, lacks, refused⟩
  cases firstLack.symm.trans lacks
  exact ⟨bareDollar_bareCost, convertible, noUnnamed, refused⟩

/-- Arguments for `bareCost`, one of which has the empty name. -/
def unnamedArguments : List (Text × Value Document) :=
  [("item".toList, .text "tea".toList), ([], .text "EUR".toList)]

/-- An argument of the empty name stands for a bare dollar sign. -/
theorem compile_unnamed :
    BareDollar bareCost ∧ (∀ pair ∈ unnamedArguments, pair.2.hasDocument = true) ∧
    compile bareCost none (some unnamedArguments) =
      .ok ⟨[.block [.owned "tea".toList], .fixed " costs ".toList, .block [.owned "EUR".toList],
        .fixed " 5".toList], [], 2⟩ :=
  ⟨bareDollar_bareCost, by decide +kernel, rfl⟩

end Splice.Template
