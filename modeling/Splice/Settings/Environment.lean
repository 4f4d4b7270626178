import Splice.Value.Basic

namespace Splice

/-!
# Variables in settings

A text of a configuration may mention variables: a dollar sign, an opening
brace, a name that is not empty and holds no closing brace, and a closing brace.
The mentions of a text are found once, from left to right (`source_mentions`
reads them back), so the value of a variable is never searched again.
-/

/-- The values of variables. -/
abbrev Environment := List (Text × Text)

/-- One character of a setting, or a mentioned variable. -/
inductive Mention where
  | literal (c : Char)
  | reference (name : Text)
  deriving DecidableEq

namespace Mention

/-- The text that a mention was read from. -/
def source : Mention → Text
  | .literal c => [c]
  | .reference name => '$' :: '\x7b' :: name ++ ['\x7d']

/-- A name up to its closing brace, and what follows. -/
def closed? (t : Text) : Option (Text × Text) :=
  match t.takeWhile (· != '\x7d'), t.dropWhile (· != '\x7d') with
  | first :: name, _ :: rest => some (first :: name, rest)
  | _, _ => none

/-- The reference at the front of a text, and what follows it. -/
def reference? : Text → Option (Text × Text)
  | '$' :: '\x7b' :: rest => closed? rest
  | _ => none

/-- A closed name, its brace and what follows are the text they were read from. -/
theorem eq_of_closed?
    {t name rest : Text}
    (found : closed? t = some (name, rest)) :
    t = name ++ '\x7d' :: rest := by
  unfold closed? at found
  split at found
  · next first more stop after taken dropped =>
      have whole := List.takeWhile_append_dropWhile (p := (· != '\x7d')) (l := t)
      have stops : stop = '\x7d' := by
        have head := List.head?_dropWhile_not (· != '\x7d') t
        rw [dropped] at head
        simpa using head
      simp only [Option.some.injEq, Prod.mk.injEq] at found
      obtain ⟨rfl, rfl⟩ := found
      rw [taken, dropped, stops] at whole
      exact whole.symm
  · simp at found

/-- A reference and what follows are the text they were read from. -/
theorem eq_of_reference?
    {t name rest : Text}
    (found : reference? t = some (name, rest)) :
    t = (Mention.reference name).source ++ rest := by
  unfold reference? at found
  split at found
  · simp [source, eq_of_closed? found]
  · simp at found

end Mention

/-- The mentions of a text, from left to right. -/
def mentions (t : Text) : List Mention :=
  match t with
  | [] => []
  | c :: rest =>
      match _found : Mention.reference? (c :: rest) with
      | some (name, after) => .reference name :: mentions after
      | none => .literal c :: mentions rest
  termination_by t.length
  decreasing_by
    · have shape := congrArg List.length (Mention.eq_of_reference? _found)
      simp only [Mention.source, List.length_cons, List.length_append] at shape ⊢
      omega
    · simp

/-- The mentions of a text read back as the text. -/
theorem source_mentions (t : Text) : (mentions t).flatMap Mention.source = t := by
  match t with
  | [] => simp [mentions]
  | c :: rest =>
      rw [mentions]
      split
      · next name after found =>
          have shape := congrArg List.length (Mention.eq_of_reference? found)
          have back := source_mentions after
          rw [List.flatMap_cons, back]
          exact (Mention.eq_of_reference? found).symm
      · next found =>
          rw [List.flatMap_cons, source_mentions rest]
          rfl
  termination_by t.length
  decreasing_by
    · simp only [Mention.source, List.length_cons, List.length_append] at shape ⊢
      omega
    · simp

namespace Environment

/-- The text of one mention; the error is the name of a variable without a value. -/
def expand (environment : Environment) : Mention → Except Text Text
  | .literal c => .ok [c]
  | .reference name =>
      match environment.lookup name with
      | some value => .ok value
      | none => .error name

/-- The text of several mentions. -/
def expandAll (environment : Environment) : List Mention → Except Text Text
  | [] => .ok []
  | mention :: rest => do
      let first ← environment.expand mention
      let others ← environment.expandAll rest
      return first ++ others

variable {δ : Type}

mutual

/-- Replace the mentions in every text of a value, inside lists and dictionaries too. -/
def substitute (environment : Environment) : Value δ → Except Text (Value δ)
  | .text t => (environment.expandAll (mentions t)).map .text
  | .list items => (environment.substituteAll items).map .list
  | .dict entries => (environment.substituteEntries entries).map .dict
  | value => .ok value

/-- Replace the mentions in several values. -/
def substituteAll (environment : Environment) : List (Value δ) → Except Text (List (Value δ))
  | [] => .ok []
  | item :: rest => do
      let first ← environment.substitute item
      let others ← environment.substituteAll rest
      return first :: others

/-- Replace the mentions in the values of some entries; keys stay as they are. -/
def substituteEntries (environment : Environment) :
    Value.Entries δ → Except Text (Value.Entries δ)
  | [] => .ok []
  | (key, value) :: rest => do
      let first ← environment.substitute value
      let others ← environment.substituteEntries rest
      return (key, first) :: others

end

end Environment

/-- The name of a mentioned variable. -/
def Mention.name? : Mention → Option Text
  | .literal _ => none
  | .reference name => some name

mutual

/-- The variables that the texts of a value mention. -/
def Value.mentionedNames : Value δ → List Text
  | .text t => (mentions t).filterMap Mention.name?
  | .list items => Value.mentionedInAll items
  | .dict entries => Value.mentionedInEntries entries
  | _ => []

/-- The variables that several values mention. -/
def Value.mentionedInAll : List (Value δ) → List Text
  | [] => []
  | item :: rest => item.mentionedNames ++ Value.mentionedInAll rest

/-- The variables that the values of some entries mention. -/
def Value.mentionedInEntries : Value.Entries δ → List Text
  | [] => []
  | (_, value) :: rest => value.mentionedNames ++ Value.mentionedInEntries rest

end

end Splice
