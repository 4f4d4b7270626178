import Splice.Proofs.Session.Colouring
import Splice.Proofs.Template.Compiled

namespace Splice

/-!
# The identity of tokens

The tokens of a program are numbered in the order in which they are made, whichever registry
they are made for, and no number is left out.  A registry keeps one token for each site, made
when the site is registered for the first time; whoever registers it again is given the same
token, with the place of the first time, and so is a call that compiles there, also when the
compilation fails.  So two sites, or one site in two registries, never share a token.  The site
of a call is an instruction of the code that runs, and code is compared without the file that it
was compiled from.

`Session.Roll` lists the tokens that a run makes by the history of the run alone, and
`Keeps.run` says that a step does to the registries what it does to the roll.
-/

/-- A site that is added is found from then on, and the others are found as before. -/
theorem Registry.site?_addSite
    {registry : Registry}
    {site : Site}
    (unknown : registry.site? site = none)
    (token : Token)
    (other : Site) :
    (registry.addSite site token).site? other =
      if other = site then some token else registry.site? other := by
  unfold site? at unknown
  by_cases same : other = site
  · subst same
    simp [site?, addSite, List.lookup_append, unknown]
  · have notThis : (other == site) = false := beq_eq_false_iff_ne.mpr same
    simp [site?, addSite, List.lookup_append, List.lookup_cons, same, notThis]

/-- Giving colours leaves the sites of a registry alone. -/
theorem Registry.sites_colourAll
    (registry : Registry)
    (tokens : List Token) :
    (registry.colourAll tokens).sites = registry.sites := by
  induction tokens generalizing registry with
  | nil => rfl
  | cons token rest inductionHypothesis =>
      have first : (registry.colour token).sites = registry.sites := by
        cases found : registry.colour? token with
        | some slot => rw [Registry.colour_of_some found]
        | none => rw [Registry.colour_of_none found]
      exact (inductionHypothesis (registry.colour token)).trans first

namespace Registries

variable {registries : Registries} {id : RegistryId}

/-- A registry is replaced by one that finds the same sites. -/
theorem site?_set
    {registry : Registry}
    (sameSites : registry.sites = (registries.get id).sites)
    (other : RegistryId)
    (site : Site) :
    ((registries.set id registry).get other).site? site = (registries.get other).site? site := by
  by_cases same : other = id
  · subst same
    by_cases isOpen : registries.opened other
    · rw [get_set_self isOpen, Registry.site?, sameSites, Registry.site?]
    · rw [set_of_not_opened isOpen]
  · rw [get_set_of_ne same]

/-- A registry that gets a site answers for this site with its token, and for others as before. -/
theorem site?_set_addSite
    (isOpen : registries.opened id)
    {site : Site}
    (unknown : (registries.get id).site? site = none)
    (token : Token)
    (other : RegistryId)
    (otherSite : Site) :
    ((registries.set id ((registries.get id).addSite site token)).get other).site? otherSite =
      if (other, otherSite) = (id, site) then some token
      else (registries.get other).site? otherSite := by
  by_cases same : other = id
  · subst same
    simp [get_set_self isOpen, Registry.site?_addSite unknown]
  · simp [get_set_of_ne same, same]

/-- A site that is known is given back with its token. -/
theorem registerSite_of_known
    {site : Site}
    {token : Token}
    (known : (registries.get id).site? site = some token)
    (file : Text)
    (line column : Int) :
    registries.registerSite id site file line column = (token, registries) := by
  rw [registerSite, known]

/-- A site that is unknown gets a new token, which its registry keeps. -/
theorem registerSite_of_unknown
    {site : Site}
    (unknown : (registries.get id).site? site = none)
    (file : Text)
    (line column : Int) :
    registries.registerSite id site file line column =
      ((registries.register file line column).1,
        (registries.register file line column).2.set id
          ((registries.get id).addSite site (registries.register file line column).1)) := by
  rw [registerSite, unknown]
  rfl

end Registries

namespace Session

/-- A token that was made, with the site of a registry that keeps it, if one does. -/
structure Entry where
  keeper : Option (RegistryId × Site)
  token : Token
  deriving DecidableEq

/-- All tokens that were made, the first one first. -/
abbrev Roll := List Entry

namespace Roll

/-- The token that a registry keeps for a site. -/
def kept? (roll : Roll) (keeper : RegistryId × Site) : Option Token :=
  (roll.find? fun entry => entry.keeper = some keeper).map Entry.token

/-- The token that was made for a wanted place already. -/
def known? (roll : Roll) (wanted : Wanted) : Option Token :=
  wanted.keeper.bind roll.kept?

/-- The next token, for a wanted place. -/
def next (roll : Roll) (wanted : Wanted) : Token :=
  ⟨roll.length + 1, wanted.file, wanted.line, wanted.column⟩

/-- A token is made for a wanted place that has none. -/
def enter (roll : Roll) (wanted : Wanted) : Roll :=
  match roll.known? wanted with
  | some _ => roll
  | none => roll ++ [⟨wanted.keeper, roll.next wanted⟩]

/-- The first entry of a keeper is the one that counts. -/
theorem kept?_append
    (roll more : Roll)
    (keeper : RegistryId × Site) :
    kept? (roll ++ more) keeper = (roll.kept? keeper <|> kept? more keeper) := by
  unfold kept?
  rw [List.find?_append]
  cases roll.find? fun entry => entry.keeper = some keeper <;> rfl

theorem kept?_singleton
    (entry : Entry)
    (keeper : RegistryId × Site) :
    kept? [entry] keeper = if entry.keeper = some keeper then some entry.token else none := by
  unfold kept?
  rw [List.find?_singleton]
  split <;> simp_all

/-- What is on the roll is not entered again. -/
theorem enter_of_known
    {roll : Roll}
    {wanted : Wanted}
    {token : Token}
    (known : roll.known? wanted = some token) :
    roll.enter wanted = roll := by
  rw [enter, known]

/-- What is not on the roll is entered with the next token. -/
theorem enter_of_unknown
    {roll : Roll}
    {wanted : Wanted}
    (unknown : roll.known? wanted = none) :
    roll.enter wanted = roll ++ [⟨wanted.keeper, roll.next wanted⟩] := by
  rw [enter, unknown]

/-- The site that a token is made for keeps it. -/
theorem kept?_enter
    {roll : Roll}
    {wanted : Wanted}
    {keeper : RegistryId × Site}
    (named : wanted.keeper = some keeper) :
    (roll.enter wanted).kept? keeper = some ((roll.known? wanted).getD (roll.next wanted)) := by
  cases lookup : roll.known? wanted with
  | some token =>
      rw [enter_of_known lookup, Option.getD_some, ← lookup, known?, named, Option.bind_some]
  | none =>
      have unknown := lookup
      rw [known?, named, Option.bind_some] at unknown
      rw [enter_of_unknown lookup, kept?_append, unknown, kept?_singleton, if_pos named]
      rfl

/-- The roll after a step. -/
def after (roll : Roll) (step : Step) : Roll :=
  match step.wanted? with
  | some wanted => roll.enter wanted
  | none => roll

/-- The tokens that some steps make. -/
def of (steps : List Step) : Roll :=
  steps.foldl after []

/-- The tokens of a roll are numbered from one on. -/
def Numbered (roll : Roll) : Prop :=
  ∀ (index : Nat) (entry : Entry), roll[index]? = some entry → entry.token.id = index + 1

/-- A step keeps the tokens of the roll numbered in order. -/
theorem Numbered.after
    {roll : Roll}
    (numbered : roll.Numbered)
    (step : Step) :
    (roll.after step).Numbered := by
  unfold Roll.after enter
  split
  · next wanted _ =>
      split
      · exact numbered
      · intro index entry there
        by_cases inRoll : index < roll.length
        · rw [List.getElem?_append_left inRoll] at there
          exact numbered index entry there
        · rw [List.getElem?_append_right (by omega), List.getElem?_singleton] at there
          split at there
          · cases there
            simp only [next]
            omega
          · cases there
  · exact numbered

end Roll

/-- The registry that is to keep the token of a wanted place, if one is, was opened. -/
def Wanted.Opened (registries : Registries) (wanted : Wanted) : Prop :=
  match wanted.keeper with
  | none => True
  | some (id, _) => registries.opened id

instance (registries : Registries) : ∀ wanted : Wanted, Decidable (wanted.Opened registries)
  | ⟨none, _, _, _⟩ => inferInstanceAs (Decidable True)
  | ⟨some (id, _), _, _, _⟩ => inferInstanceAs (Decidable (registries.opened id))

/-- The registries number and keep the tokens of a roll. -/
structure Keeps (registries : Registries) (roll : Roll) : Prop where
  counts : registries.nextToken = roll.length + 1
  finds : ∀ id site, (registries.get id).site? site = roll.kept? (id, site)

namespace Keeps

variable {registries : Registries} {roll : Roll}

theorem of_start : Keeps {} [] where
  counts := rfl
  finds id site := by
    cases id with
    | mk number => cases number <;> rfl

/-- A wanted place is given the token that it has, or else the next one, which it keeps. -/
theorem supply
    (keeps : Keeps registries roll)
    (wanted : Wanted)
    (named : wanted.Opened registries) :
    (supply registries wanted).1 = (roll.known? wanted).getD (roll.next wanted) ∧
      Keeps (supply registries wanted).2 (roll.enter wanted) := by
  have fresh :
      (registries.register wanted.file wanted.line wanted.column).1 = roll.next wanted := by
    simp [Registries.register, Roll.next, keeps.counts]
  have counts (entry : Entry) : registries.nextToken + 1 = (roll ++ [entry]).length + 1 := by
    rw [keeps.counts, List.length_append, List.length_singleton]
  cases keeperIs : wanted.keeper with
  | none =>
      have unknown : roll.known? wanted = none := by rw [Roll.known?, keeperIs, Option.bind_none]
      simp only [Session.supply, keeperIs, unknown, Option.getD_none, Roll.enter_of_unknown]
      refine ⟨fresh, counts _, fun id site => ?_⟩
      rw [Roll.kept?_append, ← keeps.finds]
      simp [Roll.kept?_singleton, Registries.register, Registries.get]
  | some keeper =>
      rcases keeper with ⟨id, site⟩
      have isOpen : registries.opened id := by
        rw [Wanted.Opened, keeperIs] at named
        exact named
      have lookup : roll.known? wanted = (registries.get id).site? site := by
        rw [Roll.known?, keeperIs, Option.bind_some, keeps.finds]
      cases found : (registries.get id).site? site with
      | some token =>
          rw [found] at lookup
          simp only [Session.supply, keeperIs, Registries.registerSite_of_known found, lookup,
            Roll.enter_of_known lookup, Option.getD_some]
          exact ⟨trivial, keeps⟩
      | none =>
          rw [found] at lookup
          simp only [Session.supply, keeperIs, Registries.registerSite_of_unknown found, lookup,
            Roll.enter_of_unknown lookup, Option.getD_none, fresh]
          refine ⟨trivial, counts _, fun other otherSite => ?_⟩
          rw [Roll.kept?_append, Roll.kept?_singleton, ← keeps.finds]
          refine (Registries.site?_set_addSite isOpen found _ other otherSite).trans ?_
          by_cases same : (other, otherSite) = (id, site)
          · cases same
            simp [found]
          · simp [same, Ne.symm same]

end Keeps

/-- Every registry that steps want a token of was opened before; a program can name no other. -/
def NamesOpened (session : Session) : List Step → Prop
  | [] => True
  | step :: rest =>
      (∀ wanted, step.wanted? = some wanted → wanted.Opened session.registries) ∧
      (session.run step).session.NamesOpened rest

section Run

variable {session : Session} {roll : Roll}

/-- A step does to the registries what it does to the roll. -/
theorem Keeps.run
    (keeps : Keeps session.registries roll)
    {step : Step}
    (named : ∀ wanted, step.wanted? = some wanted → wanted.Opened session.registries) :
    Keeps (session.run step).session.registries (roll.after step) := by
  have changes := changes_run session step
  unfold Roll.after
  generalize (session.run step).session.registries = later at changes
  cases changes with
  | nothing quiet _ =>
      rw [quiet]
      exact keeps
  | opened asked =>
      rw [asked]
      refine ⟨keeps.counts, fun id site => ?_⟩
      rw [Registries.get_create]
      exact keeps.finds id site
  | supplied wanted wants _ =>
      rw [wants]
      exact (keeps.supply wanted (named wanted wants)).2
  | used id tokens quiet _ =>
      rw [quiet]
      refine ⟨keeps.counts, fun other site => ?_⟩
      rw [Registries.site?_set (Registry.sites_colourAll _ tokens)]
      exact keeps.finds other site

/-- A run keeps what the roll says. -/
theorem Keeps.after
    (keeps : Keeps session.registries roll)
    {steps : List Step}
    (named : session.NamesOpened steps) :
    Keeps (session.after steps).registries (steps.foldl Roll.after roll) := by
  induction steps generalizing session roll with
  | nil => exact keeps
  | cons step rest inductionHypothesis =>
      exact inductionHypothesis (keeps.run named.1) named.2

/-- A compilation has no part in the registries. -/
theorem answer_compile
    (session : Session)
    (registries : Registries)
    (template : Text)
    (site : Option Token)
    (arguments : Option (List (Text × Value Draft))) :
    ({ session with registries := registries }.compile template site arguments).answer =
      (session.compile template site arguments).answer := by
  unfold compile
  dsimp only
  split <;> rfl

/-- A draft that a compilation gives begins with the marker of its place. -/
theorem marker_of_compile
    {template : Text}
    {token : Token}
    {arguments : Option (List (Text × Value Draft))}
    {draft : Draft}
    (compiled : (session.compile template (some token) arguments).answer = .ok (.draft draft)) :
    ∃ operations,
      (session.compile template (some token) arguments).session.drafts.read draft =
        .marker token :: operations := by
  unfold compile at compiled ⊢
  dsimp only at compiled ⊢
  split at compiled
  · cases compiled
  · next compilation result =>
      cases compiled
      rcases Template.assembled_of_compile result with ⟨_, operations, shape, _⟩
      refine ⟨operations, ?_⟩
      exact (Drafts.read_begin_self session.drafts _).trans shape

/-- A call compiles with the token of its site, which is kept although it may fail. -/
theorem Keeps.compileIn
    (keeps : Keeps session.registries roll)
    (isOpen : session.registries.opened .shared)
    (frame : Frame)
    (template : Text)
    (arguments : List (Text × Value Draft)) :
    let outcome := session.run (.compileIn frame template arguments)
    let token := (roll.kept? (.shared, frame.site)).getD
      ⟨roll.length + 1, frame.running.file, frame.line, frame.column⟩
    outcome.answer = (session.run (.compile template (some token) (some arguments))).answer ∧
    (outcome.session.registries.get .shared).site? frame.site = some token ∧
    ∀ draft, outcome.answer = .ok (.draft draft) →
      ∃ operations, outcome.session.drafts.read draft = .marker token :: operations := by
  rcases keeps.supply
    ⟨some (.shared, frame.site), frame.running.file, frame.line, frame.column⟩ isOpen with
    ⟨given, later⟩
  have keepsToken := (later.finds .shared frame.site).trans (Roll.kept?_enter rfl)
  simp only [Session.run, Registries.callToken_eq]
  rw [registries_compile]
  refine ⟨?_, keepsToken, ?_⟩
  · exact (answer_compile _ _ _ _ _).trans (congrArg
      (fun token => (compile _ template (some token) (some arguments)).answer) given)
  · intro draft compiled
    rcases marker_of_compile compiled with ⟨operations, shape⟩
    refine ⟨operations, shape.trans ?_⟩
    exact congrArg (fun token => Operation.marker token :: operations) given

end Run

section Identified

variable {steps : List Step}

end Identified

end Session

end Splice
