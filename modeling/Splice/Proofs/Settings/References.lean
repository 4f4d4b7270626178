import Splice.Settings.Load

namespace Splice

/-!
# References in one pass

A text is cut at its references from left to right, each time at the one that begins first,
and the search goes on behind it (`Cuts`).  What is neither a reference nor part of one is
literal text and stays.  There is exactly one such cutting of a text, and
`substitute_once` says what it has to do with replacing variables: every text of a value
becomes its literal texts with the values of the variables between them, which are not
searched again, or the first variable without a value is named.
-/

/-- A text that may stand between the braces of a reference. -/
structure IsName (name : Text) : Prop where
  notEmpty : name ≠ []
  unclosed : '\x7d' ∉ name

/-- A text at whose front a reference stands. -/
def BeginsWithReference (t : Text) : Prop :=
  ∃ name after, IsName name ∧ t = (Mention.reference name).source ++ after

/--
A text in pieces: the literal text in front, and each reference by its name with the literal
text behind it.
-/
structure Cutting where
  front : Text
  rest : List (Text × Text)

namespace Cutting

/-- The variables that are referred to. -/
def names (cut : Cutting) : List Text :=
  cut.rest.map Prod.fst

/-- The literal texts with the values of the variables between them. -/
def filled (environment : Environment) (cut : Cutting) : Text :=
  cut.front ++ cut.rest.flatMap fun piece => (environment.lookup piece.1).getD [] ++ piece.2

/-- A cutting with one more literal character in front. -/
def behind (c : Char) (cut : Cutting) : Cutting :=
  { cut with front := c :: cut.front }

/-- A cutting with one more reference in front. -/
def after (name : Text) (cut : Cutting) : Cutting :=
  ⟨[], (name, cut.front) :: cut.rest⟩

end Cutting

/-- A text is cut at the reference that begins first, and what follows is cut alike. -/
inductive Cuts : Text → Cutting → Prop where
  | literal {t : Text}
      (free : ∀ before behind, t = before ++ behind → ¬ BeginsWithReference behind) :
      Cuts t ⟨t, []⟩
  | reference {before name after : Text} {cut : Cutting}
      (isName : IsName name)
      (first : ∀ earlier behind, earlier.length < before.length →
        before ++ ((Mention.reference name).source ++ after) = earlier ++ behind →
        ¬ BeginsWithReference behind)
      (others : Cuts after cut) :
      Cuts (before ++ ((Mention.reference name).source ++ after))
        ⟨before, (name, cut.front) :: cut.rest⟩

/-- The mentions of a text, with neighbouring literal characters put together. -/
def Cutting.ofMentions : List Mention → Cutting
  | [] => ⟨[], []⟩
  | .literal c :: rest => (ofMentions rest).behind c
  | .reference name :: rest => (ofMentions rest).after name

/-- The pieces of a text. -/
def cutting (t : Text) : Cutting :=
  .ofMentions (mentions t)

namespace Mention

variable {t name after : Text}

theorem closed?_of_isName
    (isName : IsName name)
    (after : Text) :
    closed? (name ++ '\x7d' :: after) = some (name, after) := by
  have passes : ∀ c ∈ name, (c != '\x7d') = true := by
    intro c member
    simpa using fun same : c = '\x7d' => isName.unclosed (same ▸ member)
  have taken : (name ++ '\x7d' :: after).takeWhile (· != '\x7d') = name := by
    rw [List.takeWhile_append_of_pos passes]
    simp
  have dropped : (name ++ '\x7d' :: after).dropWhile (· != '\x7d') = '\x7d' :: after := by
    rw [List.dropWhile_append_of_pos passes]
    simp
  unfold closed?
  rw [taken, dropped]
  cases name with
  | nil => exact (isName.notEmpty rfl).elim
  | cons first more => rfl

theorem isName_of_closed?
    (found : closed? t = some (name, after)) :
    IsName name := by
  unfold closed? at found
  split at found
  · next first more stop rest taken dropped =>
      cases found
      refine ⟨List.cons_ne_nil _ _, fun member => ?_⟩
      rw [← taken] at member
      simpa using List.all_eq_true.mp List.all_takeWhile _ member
  · cases found

/-- A reference is found at the front of a text exactly when one stands there. -/
theorem reference?_eq_some_iff :
    reference? t = some (name, after) ↔
      IsName name ∧ t = (Mention.reference name).source ++ after := by
  constructor
  · intro found
    refine ⟨?_, eq_of_reference? found⟩
    unfold reference? at found
    split at found
    · exact isName_of_closed? found
    · cases found
  · rintro ⟨isName, rfl⟩
    have closed := closed?_of_isName isName after
    simpa [source, reference?] using closed

/-- No reference is read exactly where none begins. -/
theorem reference?_eq_none_iff :
    reference? t = none ↔ ¬ BeginsWithReference t := by
  rw [Option.eq_none_iff_forall_ne_some]
  constructor
  · rintro missing ⟨name, after, begins⟩
    exact missing (name, after) (reference?_eq_some_iff.mpr begins)
  · rintro free ⟨name, after⟩ found
    exact free ⟨name, after, reference?_eq_some_iff.mp found⟩

end Mention

section

variable {t name after : Text} {c : Char}

theorem cutting_nil : cutting [] = ⟨[], []⟩ := by
  simp [cutting, mentions, Cutting.ofMentions]

/-- A character at which no reference begins belongs to the literal text in front. -/
theorem cutting_cons
    (notHere : ¬ BeginsWithReference (c :: t)) :
    cutting (c :: t) = (cutting t).behind c := by
  have missing := Mention.reference?_eq_none_iff.mpr notHere
  unfold cutting
  rw [mentions]
  split
  · next found => cases missing.symm.trans found
  · rfl

/-- A reference is cut off, and the search goes on behind it. -/
theorem cutting_of_reference?
    (found : Mention.reference? t = some (name, after)) :
    cutting t = (cutting after).after name := by
  cases t with
  | nil => cases found
  | cons c rest =>
      unfold cutting
      rw [mentions]
      split
      · next alsoFound =>
          cases found.symm.trans alsoFound
          rfl
      · next missing => cases found.symm.trans missing

/-- Cutting a text that begins with a reference names it first. -/
theorem cutting_reference
    (isName : IsName name)
    (after : Text) :
    cutting ((Mention.reference name).source ++ after) = (cutting after).after name :=
  cutting_of_reference? (Mention.reference?_eq_some_iff.mpr ⟨isName, rfl⟩)

end

namespace Cuts

variable {t : Text} {cut : Cutting}

theorem cons
    {c : Char}
    (notHere : ¬ BeginsWithReference (c :: t))
    (cuts : Cuts t cut) :
    Cuts (c :: t) (cut.behind c) := by
  cases cuts with
  | literal free =>
      refine .literal fun before behind shape => ?_
      cases before with
      | nil =>
          rw [← show c :: t = behind from shape]
          exact notHere
      | cons d before =>
          exact free before behind (List.cons.inj shape).2
  | @reference before name after cut isName first others =>
      refine @Cuts.reference (c :: before) name after cut isName ?_ others
      intro earlier behind shorter shape
      cases earlier with
      | nil =>
          rw [← show _ = behind from shape]
          exact notHere
      | cons d earlier =>
          exact first earlier behind (Nat.lt_of_succ_lt_succ shorter) (List.cons.inj shape).2

/-- The scanner's cutting cuts the text by the rules. -/
theorem of_cutting (t : Text) : Cuts t (cutting t) := by
  match t with
  | [] =>
      rw [cutting_nil]
      refine .literal fun before behind shape => ?_
      rw [(List.append_eq_nil_iff.mp shape.symm).2]
      rintro ⟨name, after, _, impossible⟩
      cases impossible
  | c :: rest =>
      by_cases begins : BeginsWithReference (c :: rest)
      · rcases begins with ⟨name, after, isName, shape⟩
        have others := of_cutting after
        rw [shape, cutting_reference isName]
        exact @Cuts.reference [] name after _ isName
          (fun _ _ shorter => absurd shorter (by simp)) others
      · rw [cutting_cons begins]
        exact (of_cutting rest).cons begins
  termination_by t.length
  decreasing_by
    · have lengths := congrArg List.length shape
      simp only [Mention.source, List.length_cons, List.length_append] at lengths ⊢
      omega
    · simp

/-- The rules leave one cutting only, that of the scanner. -/
theorem eq_cutting
    (cuts : Cuts t cut) :
    cut = cutting t := by
  induction cuts with
  | @literal t free =>
      induction t with
      | nil => exact cutting_nil.symm
      | cons c t inductionHypothesis =>
          have rest := inductionHypothesis fun before behind shape =>
            free (c :: before) behind (congrArg (c :: ·) shape)
          rw [cutting_cons (free [] _ rfl), ← rest]
          rfl
  | @reference before name after cut isName first others inductionHypothesis =>
      induction before with
      | nil =>
          rw [List.nil_append, cutting_reference isName, ← inductionHypothesis]
          rfl
      | cons c before beforeHypothesis =>
          have rest := beforeHypothesis fun earlier behind shorter shape =>
            first (c :: earlier) behind (Nat.succ_lt_succ shorter) (congrArg (c :: ·) shape)
          have notHere : ¬ BeginsWithReference
              (c :: (before ++ ((Mention.reference name).source ++ after))) :=
            first [] _ (Nat.succ_pos _) rfl
          rw [List.cons_append, cutting_cons notHere, ← rest]
          rfl

end Cuts

/-- There is exactly one way to cut a text at its references. -/
theorem cuts_iff
    {t : Text}
    {cut : Cutting} :
    Cuts t cut ↔ cut = cutting t :=
  ⟨Cuts.eq_cutting, fun same => same ▸ Cuts.of_cutting t⟩

namespace Value

variable {δ : Type}

mutual

/-- The texts of a value, also inside lists and dictionaries, from left to right. -/
def texts : Value δ → List Text
  | .text t => [t]
  | .list items => textsOfAll items
  | .dict entries => textsOfEntries entries
  | _ => []

/-- The texts of several values. -/
def textsOfAll : List (Value δ) → List Text
  | [] => []
  | item :: rest => item.texts ++ textsOfAll rest

/-- The texts of the values of some entries; keys do not count. -/
def textsOfEntries : Entries δ → List Text
  | [] => []
  | (_, value) :: rest => value.texts ++ textsOfEntries rest

end

mutual

/-- Change the texts of a value, also inside lists and dictionaries, and nothing else. -/
def mapTexts (change : Text → Text) : Value δ → Value δ
  | .text t => .text (change t)
  | .list items => .list (mapTextsOfAll change items)
  | .dict entries => .dict (mapTextsOfEntries change entries)
  | value => value

/-- Change the texts of several values. -/
def mapTextsOfAll (change : Text → Text) : List (Value δ) → List (Value δ)
  | [] => []
  | item :: rest => item.mapTexts change :: mapTextsOfAll change rest

/-- Change the texts of the values of some entries; keys stay as they are. -/
def mapTextsOfEntries (change : Text → Text) : Entries δ → Entries δ
  | [] => []
  | (key, value) :: rest => (key, value.mapTexts change) :: mapTextsOfEntries change rest

end

end Value

/-- The variables that some texts refer to, in the order of the references. -/
def references (texts : List Text) : List Text :=
  texts.flatMap fun t => (cutting t).names

theorem references_append
    (first second : List Text) :
    references (first ++ second) = references first ++ references second :=
  List.flatMap_append

namespace Environment

variable {δ : Type} (environment : Environment)

/-- A result that needs the values of some variables: the first one without a value is a fault. -/
def needing {α : Type} (names : List Text) (result : α) : Except Text α :=
  match names.find? fun name => (environment.lookup name).isNone with
  | some name => .error name
  | none => .ok result

/-- The text with the values of variables in the place of references. -/
def fill (t : Text) : Text :=
  (cutting t).filled environment

section

variable {α β γ : Type} {environment}

/-- What is made of the result takes no part in what is needed. -/
theorem map_needing
    (f : α → β)
    (names : List Text)
    (result : α) :
    (environment.needing names result).map f = environment.needing names (f result) := by
  unfold needing
  cases names.find? fun name => (environment.lookup name).isNone <;> rfl

/-- What needs some variables and then others needs them all, the former first. -/
theorem needing_bind
    (combine : α → β → γ)
    (first others : List Text)
    (left : α)
    (right : β) :
    (do
      let a ← environment.needing first left
      let b ← environment.needing others right
      return combine a b) =
      environment.needing (first ++ others) (combine left right) := by
  unfold needing
  rw [List.find?_append]
  cases first.find? fun name => (environment.lookup name).isNone with
  | some name => rfl
  | none => cases others.find? fun name => (environment.lookup name).isNone <;> rfl

end

/-- A reference needs its name and is replaced by the value found. -/
theorem expand_reference
    (name : Text) :
    environment.expand (.reference name) =
      environment.needing [name] ((environment.lookup name).getD []) := by
  cases value : environment.lookup name <;> simp [expand, needing, value]

/-- Expanding mentions needs the names of all of them and fills them in. -/
theorem expandAll_eq
    (found : List Mention) :
    environment.expandAll found =
      environment.needing (Cutting.ofMentions found).names
        ((Cutting.ofMentions found).filled environment) := by
  induction found with
  | nil => rfl
  | cons mention rest inductionHypothesis =>
      cases mention with
      | literal c =>
          exact (congrArg (fun others => Except.map (c :: ·) others) inductionHypothesis).trans
            (map_needing _ _ _)
      | reference name =>
          rw [expandAll, inductionHypothesis, expand_reference, needing_bind (· ++ ·)]
          simp [Cutting.ofMentions, Cutting.names, Cutting.filled, Cutting.after]

mutual

/-- Substitution needs the references of all the value's texts, in order, and fills each text in. -/
theorem substitute_eq
    (value : Value δ) :
    environment.substitute value =
      environment.needing (references value.texts) (value.mapTexts environment.fill) := by
  cases value with
  | text t =>
      rw [substitute, expandAll_eq, map_needing]
      simp [references, Value.texts, Value.mapTexts, fill, cutting]
  | list items =>
      rw [substitute, substituteAll_eq items, map_needing]
      rfl
  | dict entries =>
      rw [substitute, substituteEntries_eq entries, map_needing]
      rfl
  | _ => rfl

/-- Substitution over a list's items needs the references of all of them in order. -/
theorem substituteAll_eq
    (items : List (Value δ)) :
    environment.substituteAll items =
      environment.needing (references (Value.textsOfAll items))
        (Value.mapTextsOfAll environment.fill items) := by
  cases items with
  | nil => rfl
  | cons item rest =>
      rw [substituteAll, substitute_eq item, substituteAll_eq rest, needing_bind (· :: ·),
        ← references_append]
      rfl

/-- Substitution over entries needs the references of keys and values in order. -/
theorem substituteEntries_eq
    (entries : Value.Entries δ) :
    environment.substituteEntries entries =
      environment.needing (references (Value.textsOfEntries entries))
        (Value.mapTextsOfEntries environment.fill entries) := by
  cases entries with
  | nil => rfl
  | cons entry rest =>
      rcases entry with ⟨key, value⟩
      rw [substituteEntries, substitute_eq value, substituteEntries_eq rest,
        needing_bind fun first others => (key, first) :: others, ← references_append]
      rfl

end

/--
Replacing variables takes one pass.  A text is cut in exactly one way, each time at the
reference that begins first.  If all variables that the texts of a value refer to have
values, every text becomes its literal texts with these values between them and nothing else
of the value changes; otherwise the first of them that has none is named, and a configuration
is refused with that name.
-/
theorem substitute_once :
    (∀ t cut, Cuts t cut ↔ cut = cutting t) ∧
    (∀ value : Value δ,
      environment.substitute value =
        match (references value.texts).find? fun name => (environment.lookup name).isNone with
        | some name => .error name
        | none => .ok (value.mapTexts fun t => (cutting t).filled environment)) ∧
    (∀ entries,
      Settings.load environment entries =
        match (references (Value.textsOfEntries entries)).find? fun name =>
          (environment.lookup name).isNone with
        | some name => .error (.unset name)
        | none => Settings.ofEntries
            (Value.mapTextsOfEntries (fun t => (cutting t).filled environment) entries)) ∧
    ∀ name, (SettingsFault.unset name).message =
      "Environment variable not set: " ++ String.ofList name := by
  refine ⟨fun _ _ => cuts_iff, environment.substitute_eq, fun entries => ?_, fun name => rfl⟩
  unfold Settings.load
  rw [environment.substituteEntries_eq]
  unfold needing
  cases (references (Value.textsOfEntries entries)).find? fun name =>
    (environment.lookup name).isNone <;> rfl

/--
Empty and unclosed braces are literal text, names may hold opening ones, and values are not
searched.
-/
example :
    Environment.substitute [("$\x7bB".toList, "$\x7bB\x7d".toList)]
      (.text "$\x7b\x7d$\x7b$\x7bB\x7d$\x7bC".toList : Value Empty) =
      .ok (.text "$\x7b\x7d$\x7bB\x7d$\x7bC".toList) := by
  cbv

end Environment

end Splice
