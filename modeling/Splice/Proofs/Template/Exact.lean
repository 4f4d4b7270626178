import Splice.Proofs.Template.Compiled

namespace Splice

/-!
# Compilation is exact

A compiled template reads back as the template without its indentation, once every
block and every reference is written as the name that it stands for.  Every name
of the template becomes one block or one reference: a block with the argument
where the name comes first, and a reference to that very block wherever it comes
again.
-/

namespace Operation

/-- Whether an operation stands for an argument. -/
def isUse : Operation → Bool
  | .block _ | .back _ => true
  | _ => false

/--
What a template holds where an operation was compiled, if the operation stands for
`name`.
-/
def written (name : Text) : Operation → Text
  | .newline => ['\n']
  | .fixed text | .owned text => text
  | .block _ | .back _ => '$' :: name
  | .marker _ => []

end Operation

/--
The text of a sequence that was compiled, where `names` tells what its operations
stand for.
-/
def Document.readBack (names : Nat → Text) (body : Document) : Text :=
  (body.mapIdx fun index operation => operation.written (names index)).flatten

namespace Template

/--
What the operations `body` behind the marker of a compiled template are, when the
operation at each position stands for the argument with the name `names` tells.
-/
structure ExactlyCompiled
    (template : Text)
    (site : Option Token)
    (arguments : Option (List (Text × Value Document)))
    (body : Document)
    (names : Nat → Text) : Prop where
  kinds : ∀ operation ∈ body,
    operation = .newline ∨ (∃ text, operation = .fixed text) ∨ operation.isUse = true
  /-- Nothing is lost but the indentation and the blanks at the ends of lines. -/
  text : ∃ indent,
    IsIndent template indent ∧ body.readBack names = normalText indent template
  notEmpty : .fixed [] ∉ body
  apart : ∀ {index first second},
    body[index]? = some (.fixed first) → body[index + 1]? ≠ some (.fixed second)
  /-- Without arguments nothing stands for one. -/
  unscanned : arguments = none → ∀ operation ∈ body, operation.isUse = false
  noDollar : arguments.isSome → ∀ text, .fixed text ∈ body → '$' ∉ text
  /-- Every longest run of a dollar sign and name characters is one operation. -/
  use_of_run : arguments.isSome → ∀ {front name back},
    body.readBack names = front ++ '$' :: (name ++ back) →
    (∀ c ∈ name, isNameChar c = true) →
    (∀ c more, back = c :: more → isNameChar c = false) →
    ∃ index operation,
      body[index]? = some operation ∧ operation.isUse = true ∧
      names index = name ∧ Document.readBack names (body.take index) = front
  /-- Every operation that stands for an argument is such a run. -/
  run_of_use : ∀ {index operation},
    body[index]? = some operation → operation.isUse = true →
    (∀ c ∈ names index, isNameChar c = true) ∧
    ∃ back,
      body.readBack names =
        Document.readBack names (body.take index) ++ '$' :: (names index ++ back) ∧
      ∀ c more, back = c :: more → isNameChar c = false
  /-- A block is the first use of its name and holds the first value given for it. -/
  block : ∀ {index inner},
    body[index]? = some (.block inner) →
    (∀ {earlier operation}, earlier < index →
      body[earlier]? = some operation → operation.isUse = true →
      names earlier ≠ names index) ∧
    ∃ pairs value, arguments = some pairs ∧
      pairs.lookup (names index) = some value ∧ value.toDocument = .ok inner
  /-- A reference is a later use of its name and resolves to the block of the first. -/
  back : ∀ {index offset},
    body[index]? = some (.back offset) →
    ∃ position inner,
      position < index ∧ names position = names index ∧
      body[position]? = some (.block inner) ∧ offset = (index : Int) - position ∧
      Document.resolve? (markers site ++ body)
        ((markers site).length + index : Nat) offset = .ok inner

namespace Piece

/-- A dollar sign behind a stretch of text without one is no part of the stretch. -/
theorem append_eq_append_dollar
    {stretch tail front more : Text}
    (noDollar : '$' ∉ stretch)
    (same : stretch ++ tail = front ++ '$' :: more) :
    ∃ left, front = stretch ++ left ∧ tail = left ++ '$' :: more := by
  rcases List.append_eq_append_iff.mp same with ⟨left, longer, rest⟩ | ⟨left, shorter, rest⟩
  · exact ⟨left, longer, rest⟩
  · cases left with
    | nil => exact ⟨[], by simp [shorter], by simpa using rest.symm⟩
    | cons c others =>
        cases rest
        exact (noDollar (by simp [shorter])).elim

/-- Two runs of name characters that end in the same text agree. -/
theorem run_unique
    {name other back tail : Text}
    (nameChars : ∀ c ∈ name, isNameChar c = true)
    (nameEnds : ∀ c more, back = c :: more → isNameChar c = false)
    (otherChars : ∀ c ∈ other, isNameChar c = true)
    (otherEnds : ∀ c more, tail = c :: more → isNameChar c = false)
    (same : other ++ tail = name ++ back) :
    other = name ∧ tail = back := by
  have run : ∀ {run rest : Text}, (∀ c ∈ run, isNameChar c = true) →
      (∀ c more, rest = c :: more → isNameChar c = false) →
      (run ++ rest).takeWhile isNameChar = run := by
    intro run rest chars ends
    rw [List.takeWhile_append_of_pos chars]
    cases rest with
    | nil => simp
    | cons c more => simp [ends c more rfl]
  have names : other = name := by
    rw [← run nameChars nameEnds, ← same, run otherChars otherEnds]
  subst names
  exact ⟨rfl, List.append_cancel_left same⟩

/-- A longest run in the text of a proper row is one of its pieces. -/
theorem Proper.use_of_run
    {cut : List Piece}
    (proper : Proper true cut)
    {front name back : Text}
    (whole : sources cut = front ++ '$' :: (name ++ back))
    (nameChars : ∀ c ∈ name, isNameChar c = true)
    (maximal : ∀ c more, back = c :: more → isNameChar c = false) :
    ∃ before after, cut = before ++ .use name :: after ∧ sources before = front := by
  induction proper generalizing front with
  | nil => simp at whole
  | newline _ inductionHypothesis =>
      have noDollar : '$' ∉ ['\n'] := by decide
      obtain ⟨left, rfl, tail⟩ := append_eq_append_dollar noDollar whole
      obtain ⟨before, after, rfl, rfl⟩ := inductionHypothesis tail
      exact ⟨.newline :: before, after, rfl, rfl⟩
  | @literal text _ _ _ noDollar _ _ inductionHypothesis =>
      obtain ⟨left, rfl, tail⟩ := append_eq_append_dollar (noDollar rfl) whole
      obtain ⟨before, after, rfl, rfl⟩ := inductionHypothesis tail
      exact ⟨.part (.literal text) :: before, after, rfl, rfl⟩
  | @placeholder other rest _ otherChars otherMaximal _ inductionHypothesis =>
      have whole' : '$' :: (other ++ sources rest) = front ++ '$' :: (name ++ back) := whole
      cases front with
      | nil =>
          injection whole' with _ tail
          obtain ⟨rfl, _⟩ := run_unique nameChars maximal otherChars otherMaximal tail
          exact ⟨[], rest, rfl, rfl⟩
      | cons c frontRest =>
          injection whole' with head tail
          subst head
          have noDollar : '$' ∉ other := by
            intro member
            exact absurd (otherChars '$' member) (by decide)
          obtain ⟨left, rfl, behind⟩ := append_eq_append_dollar noDollar tail
          obtain ⟨before, after, rfl, rfl⟩ := inductionHypothesis behind
          exact ⟨.use other :: before, after, rfl, rfl⟩

end Piece

/-- The names that the operations of some pieces stand for, by position. -/
def nameAt (cut : List Piece) (index : Nat) : Text :=
  (cut[index]?.bind Piece.name?).getD []

/-- The name at a use is the one it uses. -/
theorem nameAt_of_use
    {cut : List Piece}
    {index : Nat}
    {name : Text}
    (there : cut[index]? = some (.use name)) :
    nameAt cut index = name := by
  simp [nameAt, there, Piece.name?, Part.name?]

namespace Assembled

variable {binding : Binding} {cut : List Piece} {operations : Document} {index : Nat}

/-- An operation is written as the piece that it was made from. -/
theorem written_of_pieceOperation
    {past : List Piece}
    {piece : Piece}
    {operation : Operation}
    (made : pieceOperation .fixed binding past piece = some operation) :
    operation.written (piece.name?.getD []) = piece.source := by
  rcases pieceOperation_cases made with
    ⟨rfl, rfl⟩ | ⟨text, rfl, rfl⟩ | ⟨name, _, rfl, _, _, rfl⟩ | ⟨name, _, rfl, _, rfl⟩ <;>
  rfl

/-- An operation stands for an argument exactly when its piece is a name. -/
theorem isUse_of_pieceOperation
    {past : List Piece}
    {piece : Piece}
    {operation : Operation}
    (made : pieceOperation .fixed binding past piece = some operation) :
    operation.isUse = true ↔ ∃ name, piece = .use name := by
  rcases pieceOperation_cases made with
    ⟨rfl, rfl⟩ | ⟨text, rfl, rfl⟩ | ⟨name, _, rfl, _, _, rfl⟩ | ⟨name, _, rfl, _, rfl⟩ <;>
  simp [Operation.isUse]

/-- An operation of a piece is a newline, a text or a use. -/
theorem kind_of_pieceOperation
    {past : List Piece}
    {piece : Piece}
    {operation : Operation}
    (made : pieceOperation .fixed binding past piece = some operation) :
    operation = .newline ∨ (∃ text, operation = .fixed text) ∨ operation.isUse = true := by
  rcases pieceOperation_cases made with
    ⟨_, rfl⟩ | ⟨text, _, rfl⟩ | ⟨_, _, _, _, _, rfl⟩ | ⟨_, _, _, _, rfl⟩
  · exact .inl rfl
  · exact .inr (.inl ⟨text, rfl⟩)
  · exact .inr (.inr rfl)
  · exact .inr (.inr rfl)

/-- The operations up to a position read back as the pieces up to it. -/
theorem readBack_take
    (assembled : Assembled .fixed binding cut operations)
    (index : Nat) :
    Document.readBack (nameAt cut) (operations.take index) =
      Piece.sources (cut.take index) := by
  unfold Document.readBack Piece.sources
  rw [List.flatMap_def]
  congr 1
  apply List.ext_getElem?
  intro position
  rw [List.getElem?_mapIdx, List.getElem?_map, List.getElem?_take, List.getElem?_take]
  split
  · cases there : operations[position]? with
    | none =>
        have beyond := List.getElem?_eq_none_iff.mp there
        rw [assembled.length] at beyond
        simp [List.getElem?_eq_none beyond]
    | some operation =>
        obtain ⟨piece, pieceThere, made⟩ := assembled.piece_of_operation there
        simp [nameAt, pieceThere, written_of_pieceOperation made]
  · rfl

/-- The operations read back as the source of their pieces. -/
theorem readBack_eq
    (assembled : Assembled .fixed binding cut operations) :
    Document.readBack (nameAt cut) operations = Piece.sources cut := by
  have whole := assembled.readBack_take operations.length
  rwa [List.take_length, assembled.length, List.take_length] at whole

/-- An operation that uses a name was made from the use of that name. -/
theorem piece_of_isUse
    (assembled : Assembled .fixed binding cut operations)
    {operation : Operation}
    (there : operations[index]? = some operation)
    (uses : operation.isUse = true) :
    cut[index]? = some (.use (nameAt cut index)) := by
  obtain ⟨piece, pieceThere, made⟩ := assembled.piece_of_operation there
  obtain ⟨name, rfl⟩ := (isUse_of_pieceOperation made).mp uses
  rw [nameAt_of_use pieceThere, pieceThere]

/-- Every dollar with a longest run of name characters was compiled to a use. -/
theorem use_of_run
    {scan : Bool}
    (assembled : Assembled .fixed binding cut operations)
    (proper : Piece.Proper scan cut)
    (scanned : scan = true)
    {front name back : Text}
    (whole : Document.readBack (nameAt cut) operations = front ++ '$' :: (name ++ back))
    (nameChars : ∀ c ∈ name, isNameChar c = true)
    (maximal : ∀ c more, back = c :: more → isNameChar c = false) :
    ∃ index operation,
      operations[index]? = some operation ∧ operation.isUse = true ∧
      nameAt cut index = name ∧
      Document.readBack (nameAt cut) (operations.take index) = front := by
  subst scanned
  rw [assembled.readBack_eq] at whole
  obtain ⟨before, after, split, frontSources⟩ := proper.use_of_run whole nameChars maximal
  have there : cut[before.length]? = some (.use name) := by simp [split]
  obtain ⟨operation, operationThere, made⟩ := assembled.operation_of_piece there
  refine ⟨before.length, operation, operationThere,
    (isUse_of_pieceOperation made).mpr ⟨name, rfl⟩, nameAt_of_use there, ?_⟩
  rw [assembled.readBack_take, split, List.take_left, frontSources]

/-- Every use was compiled from a dollar with a longest run of name characters. -/
theorem run_of_use
    {scan : Bool}
    (assembled : Assembled .fixed binding cut operations)
    (proper : Piece.Proper scan cut)
    {operation : Operation}
    (there : operations[index]? = some operation)
    (uses : operation.isUse = true) :
    (∀ c ∈ nameAt cut index, isNameChar c = true) ∧
    ∃ back,
      Document.readBack (nameAt cut) operations =
        Document.readBack (nameAt cut) (operations.take index) ++
          '$' :: (nameAt cut index ++ back) ∧
      ∀ c more, back = c :: more → isNameChar c = false := by
  have pieceThere := assembled.piece_of_isUse there uses
  have split : cut.take index ++ .use (nameAt cut index) :: cut.drop (index + 1) = cut := by
    rw [← drop_of_getElem? pieceThere, List.take_append_drop]
  obtain ⟨_, nameChars, maximal⟩ := proper.use_of_getElem? pieceThere
  refine ⟨nameChars, Piece.sources (cut.drop (index + 1)), ?_, maximal⟩
  rw [assembled.readBack_eq, assembled.readBack_take]
  calc
    Piece.sources cut =
        Piece.sources (cut.take index ++ .use (nameAt cut index) :: cut.drop (index + 1)) := by
      rw [split]
    _ = Piece.sources (cut.take index) ++
        '$' :: (nameAt cut index ++ Piece.sources (cut.drop (index + 1))) := by
      rw [Piece.sources_append, Piece.sources_cons]
      rfl

/-- Pieces that were cut without looking for names stand for no argument. -/
theorem not_isUse_of_unscanned
    (assembled : Assembled .fixed binding cut operations)
    (proper : Piece.Proper false cut)
    {operation : Operation}
    (member : operation ∈ operations) :
    operation.isUse = false := by
  obtain ⟨index, there⟩ := List.mem_iff_getElem?.mp member
  obtain ⟨piece, pieceThere, made⟩ := assembled.piece_of_operation there
  by_contra uses
  obtain ⟨name, rfl⟩ := (isUse_of_pieceOperation made).mp (by simpa using uses)
  cases (proper.use_of_getElem? pieceThere).1

/--
A block is the first of the operations that stand for its name, which has its
document.
-/
theorem first_of_block
    (assembled : Assembled .fixed binding cut operations)
    {inner : Document}
    (block : operations[index]? = some (.block inner)) :
    (∀ {earlier operation}, earlier < index →
      operations[earlier]? = some operation → operation.isUse = true →
      nameAt cut earlier ≠ nameAt cut index) ∧
    binding.lookup (nameAt cut index) = some inner := by
  obtain ⟨name, there, new, bound⟩ := assembled.of_block (fun _ => rfl) block
  rw [nameAt_of_use there]
  refine ⟨?_, bound⟩
  rintro earlier operation before earlierThere uses rfl
  have used := assembled.piece_of_isUse earlierThere uses
  rw [← List.getElem?_take_of_lt before] at used
  exact new (List.mem_of_getElem? used)

/-- A reference comes behind the block of its name and counts back to it. -/
theorem block_of_back
    (assembled : Assembled .fixed binding cut operations)
    {offset : Int}
    (back : operations[index]? = some (.back offset)) :
    ∃ position inner,
      position < index ∧ nameAt cut position = nameAt cut index ∧
      operations[position]? = some (.block inner) ∧ offset = (index : Int) - position ∧
      Document.resolve? operations index offset = .ok inner := by
  obtain ⟨name, first, inner, there, firstThere, before, distance, block⟩ :=
    assembled.of_back (fun _ => rfl) back
  have sameName : nameAt cut first = nameAt cut index := by
    rw [nameAt_of_use there, nameAt_of_use firstThere]
  have target : ((index : Int) - offset).toNat = first := by omega
  have resolved : Document.resolve? operations index offset = .ok inner :=
    Document.resolve?_eq_ok_iff.mpr ⟨by omega, by omega, by rw [target]; exact block⟩
  exact ⟨first, inner, before, sameName, block, distance, resolved⟩

end Assembled

/--
Compiling without arguments always gives a document, and whatever is compiled with or
without them is exact.
-/
theorem exactlyCompiled_of_compile
    (template : Text)
    (site : Option Token) :
    (∃ compilation, compile template site none = .ok compilation) ∧
    ∀ {arguments compilation},
      compile template site arguments = .ok compilation →
      ∃ body names,
        compilation.document = markers site ++ body ∧
        ExactlyCompiled template site arguments body names := by
  refine ⟨⟨_, rfl⟩, ?_⟩
  intro arguments compilation compiled
  obtain ⟨binding, body, shape, assembled, given⟩ := assembled_of_compile compiled
  have proper := proper_pieces arguments.isSome template
  have literal : ∀ {index : Nat} {text : Text}, body[index]? = some (.fixed text) →
      (pieces arguments.isSome template)[index]? = some (.part (.literal text)) :=
    fun there => (assembled.of_text (fun _ => rfl) there rfl).1
  have literalKnown : ∀ {text : Text}, .fixed text ∈ body →
      text ≠ [] ∧ '\n' ∉ text ∧ (arguments.isSome = true → '$' ∉ text) := by
    intro text member
    obtain ⟨index, there⟩ := List.mem_iff_getElem?.mp member
    exact proper.literal_of_mem (List.mem_of_getElem? (literal there))
  refine ⟨body, nameAt (pieces arguments.isSome template), shape, ?_⟩
  constructor
  case kinds =>
    intro operation member
    obtain ⟨index, there⟩ := List.mem_iff_getElem?.mp member
    obtain ⟨piece, _, made⟩ := assembled.piece_of_operation there
    exact Assembled.kind_of_pieceOperation made
  case text =>
    refine ⟨minIndent template, isIndent_minIndent template, ?_⟩
    rw [assembled.readBack_eq, sources_pieces, joinLines_dedent]
  case notEmpty =>
    intro member
    exact (literalKnown member).1 rfl
  case apart =>
    intro index first second there next
    exact proper.apart_of_getElem? (literal there) (literal next)
  case unscanned =>
    rintro rfl operation member
    exact assembled.not_isUse_of_unscanned proper member
  case noDollar =>
    intro scanned text member
    exact (literalKnown member).2.2 scanned
  case use_of_run =>
    intro scanned front name back whole nameChars maximal
    exact assembled.use_of_run proper scanned whole nameChars maximal
  case run_of_use =>
    intro index operation there uses
    exact assembled.run_of_use proper there uses
  case block =>
    intro index inner block
    obtain ⟨first, bound⟩ := assembled.first_of_block block
    exact ⟨first, given bound⟩
  case back =>
    intro index offset back
    obtain ⟨position, inner, before, sameName, block, distance, resolved⟩ :=
      assembled.block_of_back back
    exact ⟨position, inner, before, sameName, block, distance,
      Document.resolve?_append_left (markers site) resolved⟩

/-- An indented template in which a name comes twice, once right behind another. -/
def guardedCall : Text :=
  "\n    when $test (  \n      \n        $call$test;\n    )\n  ".toList

/-- Arguments for `guardedCall`, with a second value for one name. -/
def guardedCallArguments : List (Text × Value Document) :=
  [("test".toList, .text "n".toList), ("call".toList, .text "f(\n)".toList),
    ("test".toList, .bool true)]

/-- What `guardedCall` compiles to behind its marker. -/
def guardedCallBody : Document :=
  [.newline, .fixed "when ".toList, .block [.owned "n".toList], .fixed " (".toList, .newline,
    .newline, .fixed "    ".toList, .block [.owned "f(".toList, .newline, .owned ")".toList],
    .back 6, .fixed ";".toList, .newline, .fixed ")".toList, .newline]

/-- Compiling `guardedCall` is exact; of the two values of one name the first counts. -/
theorem exactlyCompiled_guardedCall :
    compile guardedCall (some ⟨7, "demo.py".toList, 3, 1⟩) (some guardedCallArguments) =
      .ok ⟨.marker ⟨7, "demo.py".toList, 3, 1⟩ :: guardedCallBody, [], 2⟩ ∧
    ∃ names,
      ExactlyCompiled guardedCall (some ⟨7, "demo.py".toList, 3, 1⟩)
        (some guardedCallArguments) guardedCallBody names := by
  have compiled :
      compile guardedCall (some ⟨7, "demo.py".toList, 3, 1⟩) (some guardedCallArguments) =
        .ok ⟨.marker ⟨7, "demo.py".toList, 3, 1⟩ :: guardedCallBody, [], 2⟩ := by
    rfl
  obtain ⟨body, names, shape, exact⟩ :=
    (exactlyCompiled_of_compile guardedCall (some ⟨7, "demo.py".toList, 3, 1⟩)).2 compiled
  have sameBody : guardedCallBody = body := (List.cons.inj shape).2
  rw [← sameBody] at exact
  exact ⟨compiled, names, exact⟩

end Template

end Splice
