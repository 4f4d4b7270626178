namespace Splice

/-!
# Taking results apart

A computation that may fail gave its result through each of its steps, and a list
begins, from a position on, with what is known to stand there.
-/

/-- A computation in two steps that gives a result does so through both. -/
theorem bind_eq_ok
    {ε α β : Type}
    {first : Except ε α}
    {next : α → Except ε β}
    {result : β}
    (gives : (first >>= next) = .ok result) :
    ∃ middle, first = .ok middle ∧ next middle = .ok result := by
  cases first with
  | error fault => cases gives
  | ok middle => exact ⟨middle, rfl, gives⟩

/-- A computation in two steps that fails does so in one of them. -/
theorem bind_eq_error
    {ε α β : Type}
    {first : Except ε α}
    {next : α → Except ε β}
    {fault : ε}
    (fails : (first >>= next) = .error fault) :
    first = .error fault ∨ ∃ middle, first = .ok middle ∧ next middle = .error fault := by
  cases first with
  | error other =>
      cases fails
      exact .inl rfl
  | ok middle => exact .inr ⟨middle, rfl, fails⟩

section

variable {ε δ α : Type} (change : ε → δ)

theorem mapError_error (fault : ε) :
    (Except.error fault : Except ε α).mapError change = .error (change fault) :=
  rfl

theorem mapError_ok (value : α) :
    (Except.ok value : Except ε α).mapError change = .ok value :=
  rfl

end

/-- What is left of a sequence from a position on begins with what stands there. -/
theorem drop_of_getElem?
    {α : Type}
    {items : List α}
    {index : Nat}
    {item : α}
    (there : items[index]? = some item) :
    items.drop index = item :: items.drop (index + 1) := by
  obtain ⟨inside, same⟩ := List.getElem?_eq_some_iff.mp there
  rw [List.drop_eq_getElem_cons inside, same]

end Splice
