import Splice.Proofs.Template.Binding
import Splice.Proofs.Template.Exact
import Splice.Proofs.Template.Substitution

namespace Splice

/-!
# Single-line arguments are pasted

An argument that fits into a line becomes a block of a single text, and so does every later
use of its name.  Laying such a block out writes the text where the name stands, so the
compiled template looks as the template in which every name was replaced by hand.
-/

/-- Whether a text fits into a line: it is not empty, has no line feed and no blank at its ends. -/
def Text.isInline (t : Text) : Bool :=
  !t.isEmpty && !t.contains '\n' && !t.head?.any isBlank && !t.getLast?.any isBlank

/-- A text tested to stand in one line does. -/
theorem Text.inline_of_isInline
    {t : Text}
    (isInline : t.isInline = true) :
    t.Inline := by
  simp only [Text.isInline, Bool.and_eq_true, Bool.not_eq_true', List.isEmpty_eq_false_iff,
    List.contains_eq_mem, decide_eq_false_iff_not] at isInline
  rcases isInline with ⟨⟨⟨notEmpty, noFeed⟩, begins⟩, ends⟩
  rcases List.exists_cons_of_ne_nil notEmpty with ⟨c, more, rfl⟩
  refine ⟨⟨c, more, rfl, by simpa using begins⟩, ?_, noFeed⟩
  intro d isLast
  rw [isLast] at ends
  simpa using ends

namespace Value

variable {δ : Type}

/-- What a number, a truth value or a text that fits into a line is written as. -/
def inline? : Value δ → Option Text
  | .bool b => some (if b then "true" else "false").toList
  | .int n => some (intText n)
  | .float x => some x.text
  | .text t => if t.isInline then some t else none
  | _ => none

/-- A value written in one line is written as one. -/
theorem inline_of_inline?
    {value : Value δ}
    {t : Text}
    (written : value.inline? = some t) :
    t.Inline := by
  cases value with
  | bool b =>
      cases written
      cases b <;> exact Text.inline_of_isInline (by decide)
  | int n =>
      cases written
      exact (blankFree_intText n).inline (intText_ne_nil n)
  | float x =>
      cases written
      exact x.blankFree_text.inline x.text_ne_nil
  | text text =>
      rcases Option.ite_none_right_eq_some.mp written with ⟨isInline, same⟩
      cases same
      exact Text.inline_of_isInline isInline
  | _ => cases written

end Value

open Template

/-- A document that holds one text. -/
inductive Document.Writes (t : Text) : Document → Prop where
  | fixed : Writes t [.fixed t]
  | owned : Writes t [.owned t]

namespace Document.Writes

variable {t : Text} {document : Document}

/-- A document that writes a text adds it to the current line. -/
theorem layFrom
    (writes : document.Writes t)
    (base : Nat)
    (page : Page) :
    document.layFrom base page 0 = page.write t := by
  rw [layFrom_eq]
  cases writes <;> rfl

/-- A document that writes one line is sound. -/
theorem sound
    (writes : document.Writes t)
    (noFeed : '\n' ∉ t) :
    document.Sound := by
  cases writes with
  | fixed | owned =>
      refine .singleton (by simp) (by simp) ?_
      intro text same
      cases same
      exact noFeed

end Document.Writes

/-- A text that fits into a line is read as one piece. -/
theorem Document.ofText_of_inline
    {t : Text}
    (inline : t.Inline) :
    Document.ofText t = [.owned t] := by
  rcases inline.begins with ⟨c, more, rfl, solid⟩
  have line : Text.lines (c :: more) = [c :: more] := by
    apply Text.splitWhere_of_no_stop
    intro d member
    rw [beq_eq_false_iff_ne]
    rintro rfl
    exact inline.noFeed member
  have flush : dedentLine (minIndent (c :: more)) (c :: more) = c :: more := by
    have noIndent : minIndent (c :: more) = 0 := by
      have member : c :: more ∈ Text.lines (c :: more) := by
        rw [line]
        exact List.mem_singleton_self _
      have notBlank : Text.allBlank (c :: more) = false := by simp [Text.allBlank, solid]
      have leading : Text.leadingBlanks ([] ++ c :: more) = 0 :=
        Text.leadingBlanks_solid rfl solid
      exact Nat.le_zero.mp (leading ▸ minIndent_le member notBlank)
    rw [noIndent]
    exact Text.trimRight_eq_self inline.ends
  have cut : pieces false (c :: more) = [.part (.literal (c :: more))] := by
    rw [pieces, dedent, line, List.map_singleton, flush]
    rfl
  rw [ofText, assembleLiterals, cut]
  rfl

/-- A value written in one line becomes a document that writes that line. -/
theorem Value.writes_of_inline?
    {value : Value Document}
    {t : Text}
    (written : value.inline? = some t) :
    ∃ document, value.toDocument = .ok document ∧ document.Writes t := by
  cases value with
  | bool b =>
      cases written
      exact ⟨_, rfl, .fixed⟩
  | int n | float x =>
      cases written
      exact ⟨_, rfl, .owned⟩
  | text given =>
      have inline := inline_of_inline? written
      rcases Option.ite_none_right_eq_some.mp written with ⟨_, same⟩
      cases same
      have made : (Value.text t).toDocument = .ok [.owned t] :=
        congrArg Except.ok (Document.ofText_of_inline inline)
      exact ⟨_, made, .owned⟩
  | _ => cases written

namespace Document

variable {document inner : Document} {index : Nat} {operation : Operation}

/-- An operation that splices nothing is put on the page and the next is laid out. -/
theorem layFrom_of_not_spliced
    (here : document[index]? = some operation)
    (notSpliced : document.spliced? index operation = none)
    (base : Nat)
    (page : Page) :
    document.layFrom base page index =
      document.layFrom base (page.put base operation) (index + 1) := by
  rcases List.getElem?_eq_some_iff.mp here with ⟨inside, rfl⟩
  rw [layFrom, dif_pos inside]
  split
  · next inner spliced => rw [notSpliced] at spliced; cases spliced
  · rfl

/-- A splice is laid out at its column, and then the next operation. -/
theorem layFrom_of_spliced
    (here : document[index]? = some operation)
    (spliced : document.spliced? index operation = some inner)
    (base : Nat)
    (page : Page) :
    document.layFrom base page index =
      document.layFrom base (inner.layFrom page.line.length page 0) (index + 1) := by
  rcases List.getElem?_eq_some_iff.mp here with ⟨inside, rfl⟩
  rw [layFrom, dif_pos inside]
  split
  · next other otherSpliced =>
      cases spliced.symm.trans otherSpliced
      rfl
  · next notSpliced => rw [spliced] at notSpliced; cases notSpliced

end Document

namespace Template

/-- What a piece does to a page when every name has a text. -/
def Piece.put (values : Text → Text) (page : Page) : Piece → Page
  | .newline => page.breakLine 0
  | .part cut => page.write (cut.read (fun c => [c]) values)

section

variable {values : Text → Text} {binding : Binding} {cut : List Piece} {operations : Document}

/-- An operation lays out as its piece with the text of its name. -/
theorem Assembled.layFrom_succ
    (assembled : Assembled .fixed binding cut operations)
    (writes : ∀ {name document},
      .use name ∈ cut → binding.lookup name = some document → document.Writes (values name))
    (site : Option Token)
    {index : Nat}
    {piece : Piece}
    (there : cut[index]? = some piece)
    (page : Page) :
    (markers site ++ operations).layFrom 0 page ((markers site).length + index) =
      (markers site ++ operations).layFrom 0 (piece.put values page)
        ((markers site).length + (index + 1)) := by
  rcases assembled.operation_of_piece there with ⟨operation, operationThere, made⟩
  have here : (markers site ++ operations)[(markers site).length + index]? = some operation := by
    rw [List.getElem?_append_right (Nat.le_add_right _ _), Nat.add_sub_cancel_left]
    exact operationThere
  rcases pieceOperation_cases made with
    ⟨rfl, rfl⟩ | ⟨text, rfl, rfl⟩ | ⟨name, inner, rfl, _, bound, rfl⟩ | ⟨name, first, rfl, _, rfl⟩
  · exact Document.layFrom_of_not_spliced here rfl 0 page
  · rw [Piece.put, Part.read, List.flatMap_singleton']
    exact Document.layFrom_of_not_spliced here rfl 0 page
  · rw [Document.layFrom_of_spliced here rfl,
      (writes (List.mem_of_getElem? there) bound).layFrom]
    rfl
  · -- A reference finds the block of its name, which holds the same text.
    rcases assembled.block_of_back operationThere with
      ⟨position, inner, _, sameName, block, _, resolved⟩
    have bound := (assembled.first_of_block block).2
    rw [sameName, nameAt_of_use there] at bound
    have found := Document.resolve?_append_left (markers site) resolved
    have spliced :
        (markers site ++ operations).spliced? ((markers site).length + index)
            (.back (((cut.take index).length : Int) - first)) =
          some inner := by
      simp only [Document.spliced?, found, Except.toOption]
    rw [Document.layFrom_of_spliced here spliced,
      (writes (List.mem_of_getElem? there) bound).layFrom]
    rfl

/-- Assembled operations lay out the pieces, each name by its value. -/
theorem Assembled.layFrom_eq_foldl
    (assembled : Assembled .fixed binding cut operations)
    (writes : ∀ {name document},
      .use name ∈ cut → binding.lookup name = some document → document.Writes (values name))
    (site : Option Token)
    (index : Nat)
    (page : Page) :
    (markers site ++ operations).layFrom 0 page ((markers site).length + index) =
      (cut.drop index).foldl (Piece.put values) page := by
  generalize left : cut.drop index = rest
  induction rest generalizing index page with
  | nil =>
      have outside : ¬ (markers site).length + index < (markers site ++ operations).length := by
        have beyond := List.drop_eq_nil_iff.mp left
        rw [List.length_append, assembled.length]
        omega
      rw [Document.layFrom, dif_neg outside]
      rfl
  | cons piece rest inductionHypothesis =>
      have there : cut[index]? = some piece := by
        rw [← List.head?_drop, left]
        rfl
      have tail : cut.drop (index + 1) = rest := by
        rw [← List.tail_drop, left]
        rfl
      rw [assembled.layFrom_succ writes site there, inductionHypothesis (index + 1) _ tail]
      rfl

/-- A marker in front lays nothing out. -/
theorem layFrom_markers
    (site : Option Token)
    (operations : Document)
    (page : Page) :
    (markers site ++ operations).layFrom 0 page 0 =
      (markers site ++ operations).layFrom 0 page (markers site).length := by
  cases site with
  | none => rfl
  | some token =>
      have here : (markers (some token) ++ operations)[0]? = some (.marker token) := rfl
      exact Document.layFrom_of_not_spliced here rfl 0 page

/-- What a template with single-line arguments lays out as. -/
theorem Assembled.layout_eq
    {template : Text}
    (assembled : Assembled .fixed binding (pieces true template) operations)
    (writes : ∀ {name document},
      .use name ∈ pieces true template → binding.lookup name = some document →
      document.Writes (values name))
    (site : Option Token) :
    (markers site ++ operations).layout = (dedent template).map (substitute values) := by
  have laid := assembled.layFrom_eq_foldl writes site 0 .blank
  rw [Nat.add_zero, List.drop_zero] at laid
  rw [Document.layout, layFrom_markers, laid,
    lines_foldl_pieces (Part.read (fun c => [c]) values) (fun _ => rfl) fun _ _ => rfl]
  apply List.map_congr_left
  intro line _
  exact flatMap_read_parts _ values line

end

end Template

namespace Template

/-- Texts for the names of a template; a name that does not come in it may have any text. -/
def textsOf (template : Text) (values : Text → Text) (name : Text) : Text :=
  if name ∈ placeholders template then values name else ['-']

section

variable
  {template : Text} {pairs : List (Text × Value Document)} {values : Text → Text}
  (inline : ∀ name ∈ placeholders template, ∃ value,
    pairs.lookup name = some value ∧ value.inline? = some (values name))

include inline

/-- The texts that values are written as stand in one line. -/
theorem inline_textsOf (name : Text) : (textsOf template values name).Inline := by
  unfold textsOf
  split
  · next member =>
      rcases inline name member with ⟨value, _, written⟩
      exact Value.inline_of_inline? written
  · exact Text.inline_of_isInline (by decide)

/-- The document of a name that comes in the template holds the text of the name. -/
theorem writes_of_lookup
    {name : Text}
    (member : .use name ∈ pieces true template)
    {value : Value Document}
    (given : pairs.lookup name = some value)
    {document : Document}
    (converted : value.toDocument = .ok document) :
    document.Writes (textsOf template values name) := by
  have inTemplate : name ∈ placeholders template := by
    rw [mem_placeholders_iff, ← filterMap_name?_pieces]
    exact List.mem_filterMap.mpr ⟨_, member, rfl⟩
  rcases inline name inTemplate with ⟨other, otherGiven, written⟩
  cases given.symm.trans otherGiven
  rcases Value.writes_of_inline? written with ⟨made, otherConverted, isWritten⟩
  cases converted.symm.trans otherConverted
  rw [textsOf, if_pos inTemplate]
  exact isWritten

end

end Template

namespace Render

/--
Compiling a template whose names all have single-line arguments is pasting the texts of the
arguments into it: the template compiles, and renders like the text in which every longest
run of a dollar sign and name characters was replaced.
-/
theorem plain_of_inline
    {template : Text}
    {pairs : List (Text × Value Document)}
    {values : Text → Text}
    (inline : ∀ name ∈ placeholders template, ∃ value,
      pairs.lookup name = some value ∧ value.inline? = some (values name))
    (convertible : ∀ {name value},
      pairs.lookup name = some value → ∃ document, value.toDocument = .ok document)
    (site : Option Token) :
    ∃ compilation,
      compile template site (some pairs) = .ok compilation ∧
      ∀ spacing, ∃ text,
        plain spacing compilation.document = .ok text ∧
        plain spacing (Document.ofText (substitute values template)) = .ok text := by
  have bound : ∀ name ∈ placeholders template, name ∈ pairs.map Prod.fst := by
    intro name member
    rcases inline name member with ⟨value, given, _⟩
    exact isSome_lookup_iff.mp (by rw [given]; rfl)
  rcases exists_compile bound convertible site with ⟨compilation, compiled⟩
  refine ⟨compilation, compiled, ?_⟩
  intro spacing
  rcases assembled_of_compile compiled with ⟨binding, operations, shape, assembled, given⟩
  have writes {name : Text} {document : Document}
      (member : .use name ∈ pieces true template)
      (found : binding.lookup name = some document) :
      document.Writes (textsOf template values name) := by
    rcases given found with ⟨others, value, same, isGiven, converted⟩
    cases same
    exact writes_of_lookup inline member isGiven converted
  have sound : (markers site ++ operations).Sound :=
    (sound_markers site).append (assembled.sound (fun _ => rfl) (proper_pieces true template)
      fun member found => (writes member found).sound (inline_textsOf inline _).noFeed)
  have pasted : substitute values template = substitute (textsOf template values) template :=
    substitute_congr fun name member => (if_pos member).symm
  refine ⟨collapse spacing (dedent (substitute values template)), ?_, plain_ofText _ _⟩
  rw [shape]
  apply plain_of_layout spacing sound.resolves
  rw [assembled.layout_eq writes, pasted, dedent_substitute (inline_textsOf inline)]

/-- A header guard whose name comes three times, once right in front of another name. -/
def headerGuard : Text :=
  "\t #ifndef $guard\n\t   #define $guard $guard$level \n  \r\n\t #endif$\n".toList

/-- Arguments for `headerGuard`; of the two values of one name the first counts. -/
def headerGuardArguments : List (Text × Value Document) :=
  [("guard".toList, .text "$X_H".toList), ("level".toList, .int (-2)),
    ("guard".toList, .float .nan), ("more".toList, .text "1\n2".toList), ([], .bool true)]

def headerGuardText (name : Text) : Text :=
  if name = "guard".toList then "$X_H".toList
  else if name = "level".toList then "-2".toList
  else "true".toList

/-- Values of one line stand where their names do, and nowhere else. -/
theorem plain_headerGuard :
    ∃ compilation,
      compile headerGuard none (some headerGuardArguments) = .ok compilation ∧
      plain .standard compilation.document =
        .ok "#ifndef $X_H\n  #define $X_H $X_H-2\n\n#endiftrue\n".toList := by
  have known : placeholders headerGuard = ["guard".toList, "level".toList, []] := by
    decide +kernel
  have inline : ∀ name ∈ placeholders headerGuard, ∃ value,
      headerGuardArguments.lookup name = some value ∧
        value.inline? = some (headerGuardText name) := by
    rw [known]
    intro name member
    simp only [List.mem_cons, List.not_mem_nil, or_false] at member
    rcases member with rfl | rfl | rfl
    · exact ⟨.text "$X_H".toList, rfl, rfl⟩
    · exact ⟨.int (-2), rfl, rfl⟩
    · exact ⟨.bool true, rfl, rfl⟩
  have convertible {name : Text} {value : Value Document}
      (given : headerGuardArguments.lookup name = some value) :
      ∃ document, value.toDocument = .ok document := by
    rcases List.lookup_eq_some_iff.mp given with ⟨before, after, shape, _⟩
    have member : (name, value) ∈ headerGuardArguments := by simp [shape]
    simp only [headerGuardArguments, List.mem_cons, Prod.mk.injEq, List.not_mem_nil,
      or_false] at member
    rcases member with ⟨_, rfl⟩ | ⟨_, rfl⟩ | ⟨_, rfl⟩ | ⟨_, rfl⟩ | ⟨_, rfl⟩ <;> exact ⟨_, rfl⟩
  rcases plain_of_inline inline convertible none with ⟨compilation, compiled, renders⟩
  rcases renders .standard with ⟨text, same, pasted⟩
  refine ⟨compilation, compiled, ?_⟩
  rw [same, ← pasted, plain_ofText]
  decide +kernel

end Render

end Splice
