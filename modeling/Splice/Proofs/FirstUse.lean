import Mathlib.Data.List.Induction
import Mathlib.Data.List.Nodup

namespace Splice

/-!
# Lists in the order of first use

`List.eraseDups` keeps each element where it stands first.  Read from its end, a list
gains an element there exactly when it meets it for the first time.
-/

/-- Whatever counts as the same, an element that is kept is one of the list. -/
theorem mem_of_mem_eraseDupsBy
    {α : Type}
    {same : α → α → Bool}
    {element : α} :
    ∀ {list : List α}, element ∈ list.eraseDupsBy same → element ∈ list
  | [], member => member
  | first :: rest, member => by
      rw [List.eraseDupsBy_cons] at member
      rcases List.mem_cons.mp member with rfl | later
      · exact List.mem_cons_self
      · exact List.mem_cons_of_mem first (List.mem_of_mem_filter (mem_of_mem_eraseDupsBy later))
termination_by list => list.length
decreasing_by exact Nat.lt_succ_of_le (List.length_filter_le _ rest)

variable {α : Type} [BEq α] [LawfulBEq α] {list : List α}

theorem eraseDups_concat
    (list : List α)
    (element : α) :
    (list ++ [element]).eraseDups =
      if element ∈ list then list.eraseDups else list.eraseDups ++ [element] := by
  rw [List.eraseDups_append]
  by_cases known : element ∈ list
  · simp [List.removeAll, known]
  · simp [List.removeAll, known, List.eraseDups_cons]

theorem eraseDups_eq_self
    (distinct : list.Nodup) :
    list.eraseDups = list := by
  induction list using List.reverseRecOn with
  | nil => rfl
  | append_singleton front element inductionHypothesis =>
      rcases List.nodup_append.mp distinct with ⟨frontDistinct, _, apart⟩
      have new : element ∉ front := fun member =>
        apart element member element (List.mem_singleton_self element) rfl
      rw [eraseDups_concat, if_neg new, inductionHypothesis frontDistinct]

theorem nodup_eraseDups
    (list : List α) :
    list.eraseDups.Nodup := by
  induction list using List.reverseRecOn with
  | nil => simp
  | append_singleton front element inductionHypothesis =>
      rw [eraseDups_concat]
      split
      · exact inductionHypothesis
      · next new =>
          refine List.nodup_append.mpr ⟨inductionHypothesis, by simp, ?_⟩
          rintro left member right same rfl
          rw [List.mem_singleton.mp same, List.mem_eraseDups] at member
          exact new member

/-- What was dropped from the front would not have been new behind it either. -/
theorem eraseDups_eraseDups_append
    (front back : List α) :
    (front.eraseDups ++ back).eraseDups = (front ++ back).eraseDups := by
  induction back using List.reverseRecOn with
  | nil => simpa using eraseDups_eq_self (nodup_eraseDups front)
  | append_singleton back element inductionHypothesis =>
      rw [← List.append_assoc, ← List.append_assoc, eraseDups_concat, eraseDups_concat,
        inductionHypothesis]
      simp only [List.mem_append, List.mem_eraseDups]

/-- The first element of a kind is the first one of that kind that is used. -/
theorem find?_eraseDups
    (isKind : α → Bool)
    (list : List α) :
    list.eraseDups.find? isKind = list.find? isKind := by
  induction list using List.reverseRecOn with
  | nil => rfl
  | append_singleton front element inductionHypothesis =>
      rw [eraseDups_concat, List.find?_append]
      split
      · next known =>
          rw [inductionHypothesis]
          cases found : front.find? isKind with
          | some earlier => rfl
          | none =>
              have other := List.find?_eq_none.mp found element known
              simp [other]
      · rw [List.find?_append, inductionHypothesis]

/-- A list with numbers tells for an element where it stands first. -/
theorem lookup_zipIdx
    (list : List α)
    (element : α) :
    list.zipIdx.lookup element = list.idxOf? element := by
  have onward (start : Nat) :
      (list.zipIdx start).lookup element = (list.idxOf? element).map (· + start) := by
    induction list generalizing start with
    | nil => rfl
    | cons first rest inductionHypothesis =>
        rw [List.zipIdx_cons, List.lookup_cons, List.idxOf?_cons]
        by_cases same : first = element
        · simp [same]
        · have apart : (element == first) = false := beq_eq_false_iff_ne.mpr (Ne.symm same)
          rw [apart, beq_eq_false_iff_ne.mpr same, inductionHypothesis]
          cases rest.idxOf? element <;> simp [Nat.add_assoc, Nat.add_comm 1]
  rw [onward 0]
  cases list.idxOf? element <;> rfl

theorem idxOf?_eq_some_iff_of_nodup
    (distinct : list.Nodup)
    {element : α}
    {index : Nat} :
    list.idxOf? element = some index ↔ list[index]? = some element := by
  rw [List.idxOf?_eq_some_iff, List.getElem?_eq_some_iff]
  constructor
  · rintro ⟨inside, here, _⟩
    exact ⟨inside, here⟩
  · rintro ⟨inside, here⟩
    refine ⟨inside, here, ?_⟩
    intro earlier before same
    have equal := (List.Nodup.getElem_inj_iff distinct).mp (same.trans here.symm)
    exact absurd equal (Nat.ne_of_lt before)

end Splice
