import Splice.Proofs.Document.Levels
import Splice.Template.Assemble

namespace Splice.Template

/-!
# Assembled documents, position by position

Assembling keeps the positions of blocks by name and goes through the pieces once.
Each operation can also be told from its piece and the pieces before it alone:
a name that none of them holds becomes a block, and any other name a reference
to the place of its first use.
-/

abbrev Piece.use (name : Text) : Piece :=
  .part (.placeholder name)

/--
The operation that a piece becomes behind the pieces `past`; a name without a
document gives none.
-/
def pieceOperation
    (literal : Text → Operation)
    (binding : Binding)
    (past : List Piece) :
    Piece → Option Operation
  | .newline => some .newline
  | .part (.literal text) => some (literal text)
  | .part (.placeholder name) =>
      match past.idxOf? (.use name) with
      | some first => some (.back ((past.length : Int) - first))
      | none => (binding.lookup name).map .block

/-- Everything that a piece can become. -/
theorem pieceOperation_cases
    {literal : Text → Operation}
    {binding : Binding}
    {past : List Piece}
    {piece : Piece}
    {operation : Operation}
    (made : pieceOperation literal binding past piece = some operation) :
    (piece = .newline ∧ operation = .newline) ∨
    (∃ text, piece = .part (.literal text) ∧ operation = literal text) ∨
    (∃ name document, piece = .use name ∧ .use name ∉ past ∧
      binding.lookup name = some document ∧ operation = .block document) ∨
    (∃ name first, piece = .use name ∧ past.idxOf? (.use name) = some first ∧
      operation = .back ((past.length : Int) - first)) := by
  cases piece with
  | newline => exact .inl ⟨rfl, (Option.some.inj made).symm⟩
  | part cut =>
      cases cut with
      | literal text => exact .inr (.inl ⟨text, rfl, (Option.some.inj made).symm⟩)
      | placeholder name =>
          simp only [pieceOperation] at made
          cases used : past.idxOf? (.use name) with
          | none =>
              simp only [used] at made
              obtain ⟨document, bound, same⟩ := Option.map_eq_some_iff.mp made
              have new := List.idxOf?_eq_none_iff.mp used
              exact .inr (.inr (.inl ⟨name, document, rfl, new, bound, same.symm⟩))
          | some first =>
              simp only [used] at made
              exact .inr (.inr (.inr ⟨name, first, rfl, used, (Option.some.inj made).symm⟩))

/-- What assembling knows about the names used so far is where each was used first. -/
def Recorded (base : Nat) (past : List Piece) (placed : Placed) : Prop :=
  ∀ name, placed.lookup name = (past.idxOf? (.use name)).map (base + ·)

/-- Looking for a piece in a past with one piece more. -/
theorem idxOf?_append_singleton
    (past : List Piece)
    (piece target : Piece) :
    (past ++ [piece]).idxOf? target =
      (past.idxOf? target).or (if piece = target then some past.length else none) := by
  simp only [List.idxOf?, List.findIdx?_append, List.findIdx?_singleton, beq_iff_eq]
  split <;> simp

namespace Recorded

variable {base : Nat} {past : List Piece} {placed : Placed}

theorem start (base : Nat) : Recorded base [] [] := by
  intro name
  rfl

/-- A piece that uses no new name changes nothing. -/
theorem skip
    (recorded : Recorded base past placed)
    {piece : Piece}
    (noNewName : ∀ name, piece = .use name → .use name ∈ past) :
    Recorded base (past ++ [piece]) placed := by
  intro name
  rw [recorded name, idxOf?_append_singleton]
  by_cases uses : piece = .use name
  · have known : (past.idxOf? (.use name)).isSome :=
      List.isSome_idxOf?.mpr (noNewName name uses)
    obtain ⟨first, found⟩ := Option.isSome_iff_exists.mp known
    simp [found]
  · simp [uses]

/-- A new name is used first where it stands. -/
theorem add
    (recorded : Recorded base past placed)
    {name : Text}
    (new : placed.lookup name = none) :
    Recorded base (past ++ [.use name]) ((name, base + past.length) :: placed) := by
  intro other
  rw [idxOf?_append_singleton]
  by_cases same : other = name
  · subst same
    have notPast : past.idxOf? (.use other) = none := by
      have nothing := recorded other
      rw [new] at nothing
      exact Option.map_eq_none_iff.mp nothing.symm
    simp [notPast]
  · have different : ¬ Piece.use name = .use other := by
      intro equal
      injection equal with parts
      injection parts with names
      exact same names.symm
    have notHead : (other == name) = false := by simp [same]
    simp [List.lookup_cons, notHead, different, recorded other]

/-- The place that is kept for a name is that of its first use. -/
theorem lookup_eq_some
    (recorded : Recorded base past placed)
    {name : Text}
    {position : Nat}
    (known : placed.lookup name = some position) :
    ∃ first, past.idxOf? (.use name) = some first ∧ position = base + first := by
  rw [recorded name] at known
  obtain ⟨first, found, same⟩ := Option.map_eq_some_iff.mp known
  exact ⟨first, found, same.symm⟩

end Recorded

section

variable
  {literal : Text → Operation} {binding : Binding}
  {base : Nat} {past rest : List Piece} {placed : Placed}

/--
One step of assembling: the operation of the first piece, and what is recorded
behind it.
-/
theorem step_of_assemble
    {piece : Piece}
    {operations : Document}
    (recorded : Recorded base past placed)
    (assembled :
      assemble literal binding (base + past.length) placed (piece :: rest) = .ok operations) :
    ∃ operation others later,
      operations = operation :: others ∧
      pieceOperation literal binding past piece = some operation ∧
      Recorded base (past ++ [piece]) later ∧
      assemble literal binding (base + (past ++ [piece]).length) later rest = .ok others := by
  have next : base + (past ++ [piece]).length = base + past.length + 1 := by simp; omega
  rw [next]
  cases piece with
  | newline =>
      obtain ⟨others, assembledRest, same⟩ := bind_eq_ok assembled
      cases same
      exact ⟨_, others, placed, rfl, rfl, recorded.skip (by simp), assembledRest⟩
  | part cut =>
      cases cut with
      | literal text =>
          obtain ⟨others, assembledRest, same⟩ := bind_eq_ok assembled
          cases same
          exact ⟨_, others, placed, rfl, rfl, recorded.skip (by simp), assembledRest⟩
      | placeholder name =>
          simp only [assemble] at assembled
          cases known : placed.lookup name with
          | some position =>
              obtain ⟨first, found, place⟩ := recorded.lookup_eq_some known
              simp only [known] at assembled
              obtain ⟨others, assembledRest, same⟩ := bind_eq_ok assembled
              cases same
              have used : Piece.use name ∈ past :=
                List.isSome_idxOf?.mp (by rw [found]; rfl)
              refine ⟨_, others, placed, rfl, ?_, recorded.skip ?_, assembledRest⟩
              · have distance :
                    ((base + past.length : Nat) : Int) - position = past.length - first := by
                  omega
                simp only [pieceOperation, found, distance]
              · intro other same
                injection same with parts
                injection parts with names
                exact names ▸ used
          | none =>
              have new : past.idxOf? (.use name) = none := by
                have nothing := recorded name
                rw [known] at nothing
                exact Option.map_eq_none_iff.mp nothing.symm
              simp only [known] at assembled
              cases bound : binding.lookup name with
              | none =>
                  simp only [bound] at assembled
                  cases assembled
              | some document =>
                  simp only [bound] at assembled
                  obtain ⟨others, assembledRest, same⟩ := bind_eq_ok assembled
                  cases same
                  exact ⟨_, others, _, rfl, by simp [pieceOperation, new, bound],
                    recorded.add known, assembledRest⟩

/-- As many operations are assembled as there are pieces. -/
theorem length_of_assemble
    {operations : Document}
    (recorded : Recorded base past placed)
    (assembled : assemble literal binding (base + past.length) placed rest = .ok operations) :
    operations.length = rest.length := by
  induction rest generalizing past placed operations with
  | nil =>
      cases assembled
      rfl
  | cons piece rest inductionHypothesis =>
      obtain ⟨operation, others, later, rfl, _, recordedLater, assembledRest⟩ :=
        step_of_assemble recorded assembled
      simp [inductionHypothesis recordedLater assembledRest]

/-- Every operation comes from the piece at its place and the pieces before it. -/
theorem getElem?_of_assemble
    {operations : Document}
    (recorded : Recorded base past placed)
    (assembled : assemble literal binding (base + past.length) placed rest = .ok operations)
    (index : Nat) :
    operations[index]? =
      rest[index]?.bind (pieceOperation literal binding (past ++ rest.take index)) := by
  induction rest generalizing past placed operations index with
  | nil =>
      cases assembled
      simp
  | cons piece rest inductionHypothesis =>
      obtain ⟨operation, others, later, rfl, made, recordedLater, assembledRest⟩ :=
        step_of_assemble recorded assembled
      cases index with
      | zero => simp [made]
      | succ index =>
          simpa [List.append_assoc] using
            inductionHypothesis recordedLater assembledRest index

end

/-- The index found for a piece is that of its first use. -/
theorem firstUse_of_idxOf?
    {cut : List Piece}
    {index first : Nat}
    {piece : Piece}
    (found : (cut.take index).idxOf? piece = some first) :
    cut[first]? = some piece ∧ piece ∉ cut.take first ∧ first < index := by
  obtain ⟨inside, here, notBefore⟩ := List.idxOf?_eq_some_iff.mp found
  have before : first < index := by
    rw [List.length_take] at inside
    omega
  refine ⟨?_, ?_, before⟩
  · have there := List.getElem?_eq_getElem inside
    rw [here, List.getElem?_take_of_lt before] at there
    exact there
  · intro member
    obtain ⟨earlier, there⟩ := List.mem_iff_getElem?.mp member
    obtain ⟨bound, _⟩ := List.getElem?_eq_some_iff.mp there
    rw [List.length_take] at bound
    have earlierBefore : earlier < first := by omega
    apply notBefore earlier earlierBefore
    rw [List.getElem?_take_of_lt earlierBefore] at there
    rw [List.getElem_take]
    exact (List.getElem?_eq_some_iff.mp there).2

/-- Operations that stand for pieces one by one. -/
structure Assembled
    (literal : Text → Operation)
    (binding : Binding)
    (cut : List Piece)
    (operations : Document) : Prop where
  length : operations.length = cut.length
  getElem? : ∀ index,
    operations[index]? = cut[index]?.bind (pieceOperation literal binding (cut.take index))

/-- What is assembled stands, operation by operation, for the pieces. -/
theorem assembled_of_assemble
    {literal : Text → Operation}
    {binding : Binding}
    {base : Nat}
    {cut : List Piece}
    {operations : Document}
    (assembled : assemble literal binding base [] cut = .ok operations) :
    Assembled literal binding cut operations where
  length := length_of_assemble (.start base) assembled
  getElem? := getElem?_of_assemble (.start base) assembled

namespace Assembled

variable
  {literal : Text → Operation} {binding : Binding} {cut : List Piece} {operations : Document}
  {index : Nat}

/-- Every operation was made of the piece at its index. -/
theorem piece_of_operation
    (assembled : Assembled literal binding cut operations)
    {operation : Operation}
    (there : operations[index]? = some operation) :
    ∃ piece, cut[index]? = some piece ∧
      pieceOperation literal binding (cut.take index) piece = some operation := by
  rw [assembled.getElem? index] at there
  exact Option.bind_eq_some_iff.mp there

/-- Every piece was made into the operation at its index. -/
theorem operation_of_piece
    (assembled : Assembled literal binding cut operations)
    {piece : Piece}
    (there : cut[index]? = some piece) :
    ∃ operation, operations[index]? = some operation ∧
      pieceOperation literal binding (cut.take index) piece = some operation := by
  obtain ⟨inside, _⟩ := List.getElem?_eq_some_iff.mp there
  have operationThere := List.getElem?_eq_getElem (l := operations) (i := index)
    (by rw [assembled.length]; exact inside)
  refine ⟨_, operationThere, ?_⟩
  rw [assembled.getElem? index, there] at operationThere
  exact operationThere

theorem of_text
    (writes : ∀ text, (literal text).text? = some text)
    (assembled : Assembled literal binding cut operations)
    {operation : Operation}
    {text : Text}
    (there : operations[index]? = some operation)
    (textual : operation.text? = some text) :
    cut[index]? = some (.part (.literal text)) ∧ operation = literal text := by
  obtain ⟨piece, pieceThere, made⟩ := assembled.piece_of_operation there
  rcases pieceOperation_cases made with
    ⟨rfl, rfl⟩ | ⟨found, rfl, rfl⟩ | ⟨_, _, rfl, _, _, rfl⟩ | ⟨_, _, rfl, _, rfl⟩
  · cases textual
  · rw [writes found] at textual
    cases textual
    exact ⟨pieceThere, rfl⟩
  · cases textual
  · cases textual

/-- A block stands where its name is used first, and holds the document of the name. -/
theorem of_block
    (writes : ∀ text, (literal text).text? = some text)
    (assembled : Assembled literal binding cut operations)
    {inner : Document}
    (block : operations[index]? = some (.block inner)) :
    ∃ name, cut[index]? = some (.use name) ∧ .use name ∉ cut.take index ∧
      binding.lookup name = some inner := by
  obtain ⟨piece, there, made⟩ := assembled.piece_of_operation block
  rcases pieceOperation_cases made with
    ⟨_, same⟩ | ⟨text, _, same⟩ | ⟨name, document, rfl, new, bound, same⟩ | ⟨_, _, _, _, same⟩
  · cases same
  · have wrong := writes text
    rw [← same] at wrong
    cases wrong
  · cases same
    exact ⟨name, there, new, bound⟩
  · cases same

/--
A reference stands where its name is used again, and counts back to the block of its
first use.
-/
theorem of_back
    (writes : ∀ text, (literal text).text? = some text)
    (assembled : Assembled literal binding cut operations)
    {offset : Int}
    (back : operations[index]? = some (.back offset)) :
    ∃ name first inner,
      cut[index]? = some (.use name) ∧ cut[first]? = some (.use name) ∧
      first < index ∧ offset = (index : Int) - first ∧
      operations[first]? = some (.block inner) := by
  obtain ⟨piece, there, made⟩ := assembled.piece_of_operation back
  rcases pieceOperation_cases made with
    ⟨_, same⟩ | ⟨text, _, same⟩ | ⟨_, _, _, _, _, same⟩ | ⟨name, first, rfl, used, same⟩
  · cases same
  · have wrong := writes text
    rw [← same] at wrong
    cases wrong
  · cases same
  · cases same
    obtain ⟨inside, _⟩ := List.getElem?_eq_some_iff.mp there
    obtain ⟨firstThere, new, before⟩ := firstUse_of_idxOf? used
    obtain ⟨operation, operationThere, operationMade⟩ := assembled.operation_of_piece firstThere
    simp only [pieceOperation, List.idxOf?_eq_none_iff.mpr new,
      Option.map_eq_some_iff] at operationMade
    obtain ⟨inner, _, rfl⟩ := operationMade
    have whole : (cut.take index).length = index := by
      rw [List.length_take]
      omega
    rw [whole]
    exact ⟨name, first, inner, there, firstThere, before, rfl, operationThere⟩

end Assembled

end Splice.Template
