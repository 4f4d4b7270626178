import Splice.Document.Reference
import Splice.Proofs.Document.Nodes

namespace Splice

/-!
# Layout

What a document looks like before spacing rules touch it: the row of all its
lines, blank ones included.  Operations are taken in order, a reference is the
block that looking it up finds, and new lines inside a block are padded to the
column at which the block was entered.

Layout is defined on the operations, with a look-up for each reference.
`layFrom_eq` says that the nodes of a document are laid out alike.
-/

/-- The lines that are closed, and the line under construction behind them. -/
structure Page where
  closed : List Text
  line : Text

namespace Page

def blank : Page :=
  ⟨[], []⟩

def write (page : Page) (text : Text) : Page :=
  { page with line := page.line ++ text }

/-- Close the line under construction and begin one with some spaces. -/
def breakLine (page : Page) (column : Nat) : Page :=
  ⟨page.closed ++ [page.line], List.replicate column ' '⟩

/--
What an operation that splices nothing in does to a page inside a block that was
entered at column `base`.
-/
def put (page : Page) (base : Nat) : Operation → Page
  | .newline => page.breakLine base
  | .fixed text => page.write text
  | .owned text => page.write text
  | _ => page

/-- All lines; the line under construction is the last one. -/
def lines (page : Page) : List Text :=
  page.closed ++ [page.line]

end Page

namespace Document

/--
The document that the operation at a position stands for: that of a block, or of the
block a reference finds.
-/
def spliced? (document : Document) (index : Nat) : Operation → Option Document
  | .block inner => some inner
  | .back offset => (resolve? document index offset).toOption
  | _ => none

/-- What an operation splices in is the document of a block of the same sequence. -/
theorem block_mem_of_spliced
    {document inner : Document}
    {index : Nat}
    {operation : Operation}
    (member : operation ∈ document)
    (spliced : document.spliced? index operation = some inner) :
    Operation.block inner ∈ document := by
  cases operation with
  | block nested =>
      cases spliced
      exact member
  | back offset =>
      cases looked : resolve? document index offset with
      | ok found =>
          simp only [spliced?, looked, Except.toOption, Option.some.injEq] at spliced
          subst spliced
          exact List.mem_of_getElem? (resolve?_eq_ok_iff.mp looked).2.2
      | error fault =>
          simp only [spliced?, looked, Except.toOption, reduceCtorEq] at spliced
  | _ => cases spliced

/-- Lay out a document from a position on; its new lines begin at `base`. -/
def layFrom (document : Document) (base : Nat) (page : Page) (index : Nat) : Page :=
  if inside : index < document.length then
    match spliced : document.spliced? index document[index] with
    | some inner => document.layFrom base (layFrom inner page.line.length page 0) (index + 1)
    | none => document.layFrom base (page.put base document[index]) (index + 1)
  else page
termination_by (sizeOf document, document.length - index)
decreasing_by
  · exact .left _ _ (sizeOf_lt_of_block (block_mem_of_spliced (List.getElem_mem inside) spliced))
  · exact .right _ (Nat.sub_lt_sub_left inside (Nat.lt_succ_self index))
  · exact .right _ (Nat.sub_lt_sub_left inside (Nat.lt_succ_self index))

/-- The lines of a document. -/
def layout (document : Document) : List Text :=
  (document.layFrom 0 .blank 0).lines

end Document

mutual

/-- Lay out one node whose new lines begin at `base`. -/
def Node.lay (base : Nat) (page : Page) : Node → Page
  | .newline => page.breakLine base
  | .fixed text => page.write text
  | .owned text => page.write text
  | .block nodes | .again nodes => Node.layAll page.line.length page nodes
  | .marker _ => page
  | .broken _ => page

def Node.layAll (base : Nat) (page : Page) : List Node → Page
  | [] => page
  | node :: rest => Node.layAll base (node.lay base page) rest

end

namespace Document

/--
An operation that splices a document in is laid out as the nodes of that document.
-/
theorem nodes_of_spliced
    {document inner : Document}
    {index : Nat}
    {operation : Operation}
    (here : document[index]? = some operation)
    (spliced : document.spliced? index operation = some inner) :
    document.nodes[index]? = some (.block inner.nodes) ∨
      document.nodes[index]? = some (.again inner.nodes) := by
  cases operation with
  | block nested =>
      cases spliced
      exact .inl (nodes_of_block here)
  | back offset =>
      cases looked : resolve? document index offset with
      | ok found =>
          simp only [spliced?, looked, Except.toOption, Option.some.injEq] at spliced
          subst spliced
          exact .inr (nodes_of_resolved here looked)
      | error fault =>
          simp only [spliced?, looked, Except.toOption, reduceCtorEq] at spliced
  | _ => cases spliced

/--
The node of an operation that splices nothing in does to a page what the operation
does.
-/
theorem lay_of_not_spliced
    {document : Document}
    {index : Nat}
    {operation : Operation}
    (here : document[index]? = some operation)
    (notSpliced : document.spliced? index operation = none) :
    ∃ node, document.nodes[index]? = some node ∧
      ∀ base page, node.lay base page = page.put base operation := by
  have made := nodes_getElem? document index
  rw [here, Option.map_some] at made
  cases operation with
  | block inner => cases notSpliced
  | back offset =>
      cases looked : resolve? document index offset with
      | ok inner =>
          simp only [spliced?, looked, Except.toOption, reduceCtorEq] at notSpliced
      | error fault =>
          obtain ⟨malformed, _, broken⟩ := nodes_of_malformed here looked
          exact ⟨_, broken, fun _ _ => rfl⟩
  | _ => exact ⟨_, made, fun _ _ => rfl⟩

/-- Laying out a document from a position on lays out its nodes from there on. -/
theorem layFrom_eq
    (document : Document)
    (base : Nat)
    (page : Page)
    (index : Nat) :
    document.layFrom base page index = Node.layAll base page (document.nodes.drop index) := by
  fun_induction layFrom document base page index with
  | case1 document base page index inside inner spliced innerLaid restLaid =>
      have here : document[index]? = some document[index] := List.getElem?_eq_getElem inside
      rw [restLaid, innerLaid, List.drop_zero]
      rcases nodes_of_spliced here spliced with block | again
      · rw [drop_of_getElem? block]
        rfl
      · rw [drop_of_getElem? again]
        rfl
  | case2 document base page index inside notSpliced restLaid =>
      have here : document[index]? = some document[index] := List.getElem?_eq_getElem inside
      obtain ⟨node, there, same⟩ := lay_of_not_spliced here notSpliced
      rw [restLaid, ← same, drop_of_getElem? there]
      rfl
  | case3 document base page index outside =>
      rw [List.drop_eq_nil_of_le (by simpa using outside)]
      rfl

theorem layout_eq (document : Document) :
    document.layout = (Node.layAll 0 .blank document.nodes).lines := by
  rw [layout, layFrom_eq, List.drop_zero]

end Document

end Splice
