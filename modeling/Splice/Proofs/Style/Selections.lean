import Splice.Proofs.Style.Codes

namespace Splice.Style

/-!
# Text without its styles

A sequence that selects a style is an escape and a bracket, digits and semicolons, and the
letter m; one that begins or ends a link goes on behind its mark up to the next escape and a
backslash.  Dropping all sequences that select a style from a text that was written in styles
leaves what was written (`withoutSelections_paint`), as long as that holds no escape of its own,
and a link between its sequences (`withoutSelections_linked`); dropping those too leaves the text
alone (`withoutLinks_linked`).
-/

/-- One kind of sequences: what stands behind one, in a text that follows its escape. -/
structure Sequences where
  behind? : Text → Option Text
  shorter : ∀ {t behind}, behind? t = some behind → behind.length < t.length

namespace Sequences

variable {kind : Sequences}

/-- Drop every sequence of a kind, from left to right. -/
def drop (kind : Sequences) : Text → Text
  | [] => []
  | c :: rest =>
      if c = escape then
        match _found : kind.behind? rest with
        | some behind => kind.drop behind
        | none => c :: kind.drop rest
      else c :: kind.drop rest
termination_by t => t.length
decreasing_by
  · exact Nat.lt_succ_of_lt (kind.shorter _found)
  · exact Nat.lt_succ_self _
  · exact Nat.lt_succ_self _

@[simp] theorem drop_nil : kind.drop [] = [] := by
  rw [drop]

/-- A character that begins no sequence is kept. -/
theorem drop_cons_of_none
    {c : Char}
    {rest : Text}
    (none : c = escape → kind.behind? rest = none) :
    kind.drop (c :: rest) = c :: kind.drop rest := by
  rw [drop]
  split
  · next isEscape =>
      split
      · next behind found => cases (none isEscape).symm.trans found
      · rfl
  · rfl

/-- What stands before the first escape is kept. -/
theorem drop_append
    {t : Text}
    (plain : escape ∉ t)
    (rest : Text) :
    kind.drop (t ++ rest) = t ++ kind.drop rest := by
  induction t with
  | nil => rfl
  | cons c more inductionHypothesis =>
      have notEscape : c ≠ escape := fun same => plain (same ▸ List.mem_cons_self)
      have morePlain : escape ∉ more := fun member => plain (List.mem_cons_of_mem c member)
      rw [List.cons_append, drop_cons_of_none fun same => absurd same notEscape,
        inductionHypothesis morePlain]
      rfl

/-- A sequence of the kind is dropped. -/
theorem drop_escape
    {t rest : Text}
    (found : kind.behind? t = some rest) :
    kind.drop (escape :: t) = kind.drop rest := by
  rw [drop, if_pos rfl]
  split
  · next behind other => rw [Option.some.inj (found.symm.trans other)]
  · next other => cases found.symm.trans other

end Sequences

/-- Whether a character may stand between the bracket and the letter. -/
def isSelector (c : Char) : Bool :=
  c.isDigit || c == ';'

/-- What stands behind a sequence that selects a style, in a text that follows its escape. -/
def behindSelection? : Text → Option Text
  | '[' :: rest =>
      match rest.dropWhile isSelector with
      | 'm' :: behind => some behind
      | _ => none
  | _ => none

theorem length_behindSelection
    {t behind : Text}
    (found : behindSelection? t = some behind) :
    behind.length < t.length := by
  unfold behindSelection? at found
  split at found
  · next rest =>
      split at found
      · next shape =>
          have shorter := (List.dropWhile_sublist isSelector (l := rest)).length_le
          cases found
          rw [shape, List.length_cons] at shorter
          rw [List.length_cons]
          omega
      · cases found
  · cases found

/-- What stands behind a sequence of a link, in a text that follows its escape. -/
def behindLink? : Text → Option Text
  | ']' :: '8' :: ';' :: rest =>
      match rest.dropWhile (· ≠ escape) with
      | _ :: '\\' :: behind => some behind
      | _ => none
  | _ => none

theorem length_behindLink
    {t behind : Text}
    (found : behindLink? t = some behind) :
    behind.length < t.length := by
  unfold behindLink? at found
  split at found
  · next rest =>
      split at found
      · next shape =>
          have shorter := (List.dropWhile_sublist (· ≠ escape) (l := rest)).length_le
          cases found
          rw [shape] at shorter
          simp only [List.length_cons] at shorter ⊢
          omega
      · cases found
  · cases found

/-- The sequences that select a style. -/
def selections : Sequences := ⟨behindSelection?, length_behindSelection⟩

/-- The sequences that begin or end a link. -/
def links : Sequences := ⟨behindLink?, length_behindLink⟩

/-- Drop every sequence that selects a style. -/
def withoutSelections (t : Text) : Text :=
  selections.drop t

/-- Drop every sequence that begins or ends a link. -/
def withoutLinks (t : Text) : Text :=
  links.drop t

/-- A selection sequence is taken out whole. -/
theorem withoutSelections_sequence
    {parameters : Text}
    (made : ∀ c ∈ parameters, isSelector c = true)
    (rest : Text) :
    withoutSelections (escape :: '[' :: (parameters ++ 'm' :: rest)) = withoutSelections rest := by
  have letter : isSelector 'm' = false := by decide
  apply Sequences.drop_escape
  simp [selections, behindSelection?, List.dropWhile_append_of_pos made, letter]

/-- A text that was painted with codes is left when the sequences are dropped. -/
theorem withoutSelections_paint
    {codes t : Text}
    (made : ∀ c ∈ codes, isSelector c = true)
    (plain : escape ∉ t)
    (rest : Text) :
    withoutSelections (paint codes t ++ rest) = t ++ withoutSelections rest := by
  by_cases unpainted : t.isEmpty || codes.isEmpty
  · rw [paint, if_pos unpainted, withoutSelections, Sequences.drop_append plain]
    rfl
  · have reset : ∀ c ∈ ['0'], isSelector c = true :=
      List.forall_mem_singleton.mpr (by decide)
    have shape : paint codes t ++ rest =
        escape :: '[' :: (codes ++ 'm' :: (t ++ escape :: '[' :: (['0'] ++ 'm' :: rest))) := by
      simp [paint, unpainted]
    rw [shape, withoutSelections_sequence made, withoutSelections, Sequences.drop_append plain,
      ← withoutSelections, withoutSelections_sequence reset]

section Linking

variable {parameters address : Text}

/-- A link sequence up to its closing mark. -/
theorem linkSequence_append
    (parameters address rest : Text) :
    linkSequence parameters address ++ rest =
      escape :: ((linkMark ++ (parameters ++ ';' :: address)) ++ escape :: '\\' :: rest) := by
  simp [linkSequence]

/-- A sequence of a link selects no style. -/
theorem withoutSelections_linkSequence
    (parametersPlain : escape ∉ parameters)
    (addressPlain : escape ∉ address)
    (rest : Text) :
    withoutSelections (linkSequence parameters address ++ rest) =
      linkSequence parameters address ++ withoutSelections rest := by
  have innerPlain : escape ∉ linkMark ++ (parameters ++ ';' :: address) := by
    have markPlain : escape ∉ linkMark := by decide
    have separatorPlain : escape ≠ ';' := by decide
    simp [markPlain, parametersPlain, addressPlain, separatorPlain]
  have backslashPlain : escape ∉ ['\\'] := by decide
  have ended : selections.drop (escape :: '\\' :: rest) =
      escape :: '\\' :: selections.drop rest := by
    rw [Sequences.drop_cons_of_none fun _ => rfl]
    exact congrArg (List.cons escape) (Sequences.drop_append backslashPlain rest)
  rw [linkSequence_append, linkSequence_append, withoutSelections,
    Sequences.drop_cons_of_none fun _ => rfl, Sequences.drop_append innerPlain, ended]
  rfl

/-- A link sequence is taken out whole. -/
theorem withoutLinks_linkSequence
    (parametersPlain : escape ∉ parameters)
    (addressPlain : escape ∉ address)
    (rest : Text) :
    withoutLinks (linkSequence parameters address ++ rest) = withoutLinks rest := by
  have innerPlain : ∀ c ∈ parameters ++ ';' :: address, decide (c ≠ escape) = true := by
    intro c member
    apply decide_eq_true
    rintro rfl
    have separatorPlain : escape ≠ ';' := by decide
    simp [parametersPlain, addressPlain, separatorPlain] at member
  have ended : (parameters ++ ';' :: address ++ escape :: '\\' :: rest).dropWhile (· ≠ escape) =
      escape :: '\\' :: rest := by
    rw [List.dropWhile_append_of_pos innerPlain, List.dropWhile_cons_of_neg (by simp)]
  have mark : linkMark = [']', '8', ';'] := by decide
  rw [linkSequence_append, List.append_assoc, mark]
  apply Sequences.drop_escape
  simp only [links, behindLink?, List.cons_append, List.nil_append]
  rw [ended]
  rfl

/-- The number of a link holds no escape. -/
theorem escape_notMem_linkNumber (number : Nat) :
    escape ∉ "id=".toList ++ Nat.toDigits 10 number := by
  intro member
  rcases List.mem_append.mp member with inName | digit
  · exact absurd inName (by decide)
  · exact absurd (Nat.isDigit_of_mem_toDigits (by decide) (by decide) digit) (by decide)

variable {number : Nat} {link : Option Text} {t : Text}

/-- Taking selections out of a painted link leaves the linked text. -/
theorem withoutSelections_linked
    (addressPlain : ∀ address, link = some address → escape ∉ address)
    {codes : Text}
    (made : ∀ c ∈ codes, isSelector c = true)
    (plain : escape ∉ t)
    (rest : Text) :
    withoutSelections (linked number link (paint codes t) ++ rest) =
      linked number link t ++ withoutSelections rest := by
  cases link with
  | none => exact withoutSelections_paint made plain rest
  | some address =>
      simp only [linked, List.append_assoc]
      rw [withoutSelections_linkSequence (escape_notMem_linkNumber number) (addressPlain _ rfl),
        withoutSelections_paint made plain,
        withoutSelections_linkSequence List.not_mem_nil List.not_mem_nil]

/-- Taking links out of a linked text leaves the text. -/
theorem withoutLinks_linked
    (addressPlain : ∀ address, link = some address → escape ∉ address)
    (plain : escape ∉ t)
    (rest : Text) :
    withoutLinks (linked number link t ++ rest) = t ++ withoutLinks rest := by
  cases link with
  | none => exact Sequences.drop_append plain rest
  | some address =>
      simp only [linked, List.append_assoc]
      rw [withoutLinks_linkSequence (escape_notMem_linkNumber number) (addressPlain _ rfl),
        withoutLinks, Sequences.drop_append plain, ← withoutLinks,
        withoutLinks_linkSequence List.not_mem_nil List.not_mem_nil]

end Linking

end Splice.Style
