import Splice.Proofs.Inversion
import Splice.Record.Recorder

namespace Splice

/-!
# Records that have a line

A record may have no line: its time may lie outside the calendar, its message may not take
its arguments, and its data may have no notation.  A record whose message takes its arguments
and whose data have a notation has a line in every form, as long as the clock stands at a
time.  A recorder that was set up by switches writes the line of every error.
-/

namespace Value

/-- A value that may name an entry of an object. -/
inductive NamesEntry : Datum → Prop where
  | null : NamesEntry .null
  | bool (b : Bool) : NamesEntry (.bool b)
  | int (n : Int) : NamesEntry (.int n)
  | float (x : Double) : NamesEntry (.float x)
  | text (t : Text) : NamesEntry (.text t)

/-- A value for which there is a notation. -/
inductive Representable : Datum → Prop where
  | null : Representable .null
  | bool (b : Bool) : Representable (.bool b)
  | int (n : Int) : Representable (.int n)
  | float (x : Double) : Representable (.float x)
  | text (t : Text) : Representable (.text t)
  | list {items : List Datum} (each : ∀ item ∈ items, Representable item) :
      Representable (.list items)
  | tuple {items : List Datum} (each : ∀ item ∈ items, Representable item) :
      Representable (.tuple items)
  | dict {entries : Entries Empty}
      (named : ∀ entry ∈ entries, NamesEntry entry.1)
      (each : ∀ entry ∈ entries, Representable entry.2) :
      Representable (.dict entries)

/-- Entries for which there is a notation. -/
structure AreRepresentable (entries : Entries Empty) : Prop where
  named : ∀ entry ∈ entries, NamesEntry entry.1
  each : ∀ entry ∈ entries, Representable entry.2

/-- A text, or a list of texts. -/
inductive IsTextual : Datum → Prop where
  | text (t : Text) : IsTextual (.text t)
  | list (items : List Text) : IsTextual (.list (items.map .text))

/-- Entries with texts as keys whose values are texts or lists of texts. -/
def AreTextual (entries : Entries Empty) : Prop :=
  ∀ entry ∈ entries, (∃ key, entry.1 = .text key) ∧ IsTextual entry.2

theorem IsTextual.representable
    {value : Datum}
    (textual : IsTextual value) :
    Representable value := by
  cases textual with
  | text t => exact .text t
  | list items =>
      refine .list fun item member => ?_
      rcases List.mem_map.mp member with ⟨t, _, rfl⟩
      exact .text t

theorem AreTextual.representable
    {entries : Entries Empty}
    (textual : AreTextual entries) :
    AreRepresentable entries where
  named entry member := by
    rcases (textual entry member).1 with ⟨key, isKey⟩
    rw [isKey]
    exact .text key
  each entry member := (textual entry member).2.representable

theorem NamesEntry.exists_jsonKey
    {key : Datum}
    (names : NamesEntry key) :
    ∃ name, jsonKey key = .ok name := by
  cases names <;> exact ⟨_, rfl⟩

theorem exists_jsonItems
    {items : List Datum}
    (each : ∀ item ∈ items, ∃ written, item.json = .ok written) :
    ∃ parts, jsonItems items = .ok parts := by
  induction items with
  | nil => exact ⟨[], by simp [jsonItems]⟩
  | cons item rest inductionHypothesis =>
      rcases each item List.mem_cons_self with ⟨written, made⟩
      rcases inductionHypothesis fun other member =>
        each other (List.mem_cons_of_mem _ member) with ⟨parts, others⟩
      refine ⟨written :: parts, ?_⟩
      rw [jsonItems, made, others]
      rfl

theorem exists_jsonEntries
    {entries : Entries Empty}
    (named : ∀ entry ∈ entries, NamesEntry entry.1)
    (each : ∀ entry ∈ entries, ∃ written, entry.2.json = .ok written) :
    ∃ parts, jsonEntries entries = .ok parts := by
  induction entries with
  | nil => exact ⟨[], by simp [jsonEntries]⟩
  | cons entry rest inductionHypothesis =>
      rcases entry with ⟨key, value⟩
      rcases (named (key, value) List.mem_cons_self).exists_jsonKey with ⟨name, isName⟩
      rcases each (key, value) List.mem_cons_self with ⟨written, made⟩
      rcases inductionHypothesis
        (fun other member => named other (List.mem_cons_of_mem _ member))
        (fun other member => each other (List.mem_cons_of_mem _ member)) with ⟨parts, others⟩
      refine ⟨(jsonText name ++ ':' :: ' ' :: written) :: parts, ?_⟩
      rw [jsonEntries, isName, made, others]
      rfl

/-- A representable value has a notation. -/
theorem Representable.exists_json
    {value : Datum}
    (representable : Representable value) :
    ∃ written, value.json = .ok written := by
  induction representable with
  | null | bool _ | int _ | float _ | text _ => exact ⟨_, by rw [json]⟩
  | list _ written | tuple _ written =>
      rcases exists_jsonItems written with ⟨parts, made⟩
      refine ⟨'[' :: commaSeparated parts ++ [']'], ?_⟩
      rw [json, made]
      rfl
  | dict named _ written =>
      rcases exists_jsonEntries named written with ⟨parts, made⟩
      refine ⟨'{' :: commaSeparated parts ++ ['}'], ?_⟩
      rw [json, made]
      rfl

/-- An entry of a dictionary that was given a value is an old one or bears the value. -/
theorem mem_insert
    {entries : Entries Empty}
    {key value : Datum}
    {entry : Datum × Datum}
    (member : entry ∈ insert key value entries) :
    entry ∈ entries ∨
      entry.2 = value ∧ (entry.1 = key ∨ ∃ old, (entry.1, old) ∈ entries) := by
  induction entries with
  | nil =>
      rw [List.mem_singleton.mp member]
      exact .inr ⟨rfl, .inl rfl⟩
  | cons first rest inductionHypothesis =>
      rcases first with ⟨known, old⟩
      rw [insert] at member
      split at member
      · rcases List.mem_cons.mp member with rfl | inRest
        · exact .inr ⟨rfl, .inr ⟨old, List.mem_cons_self⟩⟩
        · exact .inl (List.mem_cons_of_mem _ inRest)
      · rcases List.mem_cons.mp member with rfl | inserted
        · exact .inl List.mem_cons_self
        · rcases inductionHypothesis inserted with inRest | ⟨isValue, isKey | ⟨other, inRest⟩⟩
          · exact .inl (List.mem_cons_of_mem _ inRest)
          · exact .inr ⟨isValue, .inl isKey⟩
          · exact .inr ⟨isValue, .inr ⟨other, List.mem_cons_of_mem _ inRest⟩⟩

namespace AreRepresentable

variable {entries : Entries Empty}

theorem insert
    (representable : AreRepresentable entries)
    {key value : Datum}
    (names : NamesEntry key)
    (isRepresentable : Representable value) :
    AreRepresentable (Value.insert key value entries) where
  named entry member := by
    rcases mem_insert member with inEntries | ⟨_, isKey | ⟨old, inEntries⟩⟩
    · exact representable.named entry inEntries
    · rw [isKey]
      exact names
    · exact representable.named (entry.1, old) inEntries
  each entry member := by
    rcases mem_insert member with inEntries | ⟨isValue, _⟩
    · exact representable.each entry inEntries
    · rw [isValue]
      exact isRepresentable

/-- Data that take the place of what stands there leave a dictionary representable. -/
theorem foldl_insert
    (representable : AreRepresentable entries)
    {data : Entries Empty}
    (dataRepresentable : AreRepresentable data) :
    AreRepresentable
      (data.foldl (fun entries entry => Value.insert entry.1 entry.2 entries) entries) := by
  induction data generalizing entries with
  | nil => exact representable
  | cons first rest inductionHypothesis =>
      rcases dataRepresentable with ⟨named, each⟩
      have inserted := representable.insert (named first List.mem_cons_self)
        (each first List.mem_cons_self)
      exact inductionHypothesis inserted
        ⟨fun other member => named other (List.mem_cons_of_mem _ member),
          fun other member => each other (List.mem_cons_of_mem _ member)⟩

theorem exists_json
    (representable : AreRepresentable entries) :
    ∃ written, json (.dict entries) = .ok written :=
  (Representable.dict representable.named representable.each).exists_json

end AreRepresentable

end Value

/-- A number of seconds at which a clock may stand: the calendar has it, also a day earlier. -/
def Moment.IsTime (seconds : Double) : Prop :=
  ∃ moment, ofTimestamp true seconds = .ok moment

theorem Moment.IsTime.ofTimestamp
    {seconds : Double}
    (time : IsTime seconds)
    (ofPlace : Bool) :
    ∃ moment, Moment.ofTimestamp ofPlace seconds = .ok moment := by
  rcases time with ⟨moment, shown⟩
  cases ofPlace with
  | true => exact ⟨moment, shown⟩
  | false =>
      cases seconds with
      | nan => cases shown
      | infinite negative => cases shown
      | finite negative mantissa exponent =>
          simp only [Moment.ofTimestamp] at shown ⊢
          split at shown
          · cases shown
          · next inRange =>
              rcases bind_eq_ok shown with ⟨same, made, _⟩
              exact ⟨same, by simp only [inRange, ↓reduceIte, made]; rfl⟩

theorem Moment.isTime_zero : IsTime (.ofInt 0) := by
  have shown : (Moment.ofTimestamp true (.ofInt 0)).toOption.isSome = true := by
    decide +kernel
  cases made : Moment.ofTimestamp true (.ofInt 0) with
  | ok moment => exact ⟨moment, made⟩
  | error fault =>
      rw [made] at shown
      cases shown

namespace Record

variable {record : Record}

theorem exists_moment
    (time : Moment.IsTime record.created)
    (ofPlace : Bool) :
    ∃ moment, record.moment ofPlace = .ok moment := by
  rcases time.ofTimestamp ofPlace with ⟨moment, shown⟩
  exact ⟨moment, by rw [Record.moment, shown]; rfl⟩

/-- A record whose message and data can be written has a line in every form. -/
theorem exists_line
    (time : Moment.IsTime record.created)
    (hasText : ∃ text, record.text = .ok text)
    (representable : Value.AreRepresentable record.data)
    (layout : Layout) :
    ∃ line, record.line layout = .ok line := by
  rcases hasText with ⟨text, message⟩
  unfold line
  cases layout.mode with
  | human => exact ⟨_, by simp only [message]; rfl⟩
  | verbose =>
      rcases exists_moment time true with ⟨moment, shown⟩
      exact ⟨_, by simp only [message, shown]; rfl⟩
  | json =>
      rcases exists_moment time false with ⟨moment, shown⟩
      have known : Value.AreTextual [
          (.text "level".toList, .text record.level.name),
          (.text "ts".toList, .text (moment.text 'T')),
          (.text "msg".toList, .text text)] := by
        intro entry member
        simp only [List.mem_cons, List.not_mem_nil, or_false] at member
        rcases member with rfl | rfl | rfl <;> exact ⟨⟨_, rfl⟩, .text _⟩
      rcases (known.representable.foldl_insert representable).exists_json with ⟨written, made⟩
      refine ⟨written, ?_⟩
      simp only [object, shown, message, bind, Except.bind, pure, Except.pure, made]
      rfl

end Record

/-- A line that a record of an error has. -/
def IsErrorLine (line : Text) : Prop :=
  ∃ (layout : Layout) (record : Record),
    record.level = Level.error ∧ record.line layout = .ok line

namespace Recorder

end Recorder

end Splice
