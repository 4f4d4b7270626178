import Mathlib.Data.List.Basic
import Splice.Style.Escape

namespace Splice.Style

/-!
# Reading styled text

A screen reads a text character by character.  A sequence puts its parameters in force until a
reset, which has none or a zero, and every character that is no part of a sequence is shown
with all that is in force.  A text that is painted in a style shows its characters with the
codes of the style, and leaves nothing in force (`read?_render`).  When every line feed is shown
with nothing in force, a screen can begin at any line (`read?_lines`).
-/

/-- A character with the parameters that it is shown with. -/
structure Cell where
  char : Char
  inForce : List Text
  deriving DecidableEq

/-- What is read of a sequence, the parameters in force, and what is shown. -/
structure Screen where
  pending : Pending
  inForce : List Text
  shown : List Cell

/-- The parameters in force after those of a sequence. -/
def select (inForce : List Text) (parameters : Text) : List Text :=
  if parameters = [] ∨ parameters = ['0'] then [] else inForce ++ [parameters]

/-- A screen that shows some cells, with nothing in force and no sequence begun. -/
def Screen.atRest (shown : List Cell) : Screen :=
  ⟨.nothing, [], shown⟩

/-- Read one character; a sequence that selects no style is not understood. -/
def Screen.next? (screen : Screen) (c : Char) : Option Screen :=
  match screen.pending with
  | .nothing =>
      if c = escape then some { screen with pending := .escape }
      else some { screen with shown := screen.shown ++ [⟨c, screen.inForce⟩] }
  | .escape => if c = '[' then some { screen with pending := .parameters [] } else none
  | .parameters reversed =>
      if c = 'm' then
        some { screen with pending := .nothing, inForce := select screen.inForce reversed.reverse }
      else if c.isDigit ∨ c = ';' then some { screen with pending := .parameters (c :: reversed) }
      else none

def Screen.read? (screen : Screen) (t : Text) : Option Screen :=
  t.foldlM next? screen

namespace Screen

theorem read?_cons
    (screen : Screen)
    (c : Char)
    (rest : Text) :
    screen.read? (c :: rest) = (screen.next? c).bind fun next => next.read? rest :=
  rfl

theorem read?_append
    (screen : Screen)
    (first second : Text) :
    screen.read? (first ++ second) = (screen.read? first).bind fun next => next.read? second :=
  List.foldlM_append

/-- Text without the escape character is shown with what is in force. -/
theorem read?_of_not_escape
    {t : Text}
    (plain : escape ∉ t)
    (inForce : List Text)
    (shown : List Cell) :
    (⟨.nothing, inForce, shown⟩ : Screen).read? t =
      some ⟨.nothing, inForce, shown ++ t.map fun c => ⟨c, inForce⟩⟩ := by
  induction t generalizing shown with
  | nil => simp [read?]
  | cons c rest inductionHypothesis =>
      have notEscape : c ≠ escape := fun same => plain (same ▸ List.mem_cons_self)
      have restPlain : escape ∉ rest := fun member => plain (List.mem_cons_of_mem c member)
      simp only [read?_cons, next?, notEscape, ↓reduceIte, Option.bind_some,
        inductionHypothesis restPlain, List.map_cons, List.append_assoc, List.singleton_append]

/-- Digits and semicolons are collected as a sequence's parameters. -/
theorem read?_parameters
    {parameters : Text}
    (made : ∀ c ∈ parameters, c.isDigit ∨ c = ';')
    (reversed : Text)
    (inForce : List Text)
    (shown : List Cell) :
    (⟨.parameters reversed, inForce, shown⟩ : Screen).read? parameters =
      some ⟨.parameters (parameters.reverse ++ reversed), inForce, shown⟩ := by
  induction parameters generalizing reversed with
  | nil => rfl
  | cons c rest inductionHypothesis =>
      have madeHere := made c List.mem_cons_self
      have notLetter : c ≠ 'm' := by
        rintro rfl
        revert madeHere
        decide
      have restMade : ∀ d ∈ rest, d.isDigit ∨ d = ';' :=
        fun d member => made d (List.mem_cons_of_mem c member)
      simp [read?_cons, next?, notLetter, madeHere, inductionHypothesis restMade]

/-- A sequence puts its parameters in force. -/
theorem read?_sequence
    {parameters : Text}
    (made : ∀ c ∈ parameters, c.isDigit ∨ c = ';')
    (inForce : List Text)
    (shown : List Cell) :
    (⟨.nothing, inForce, shown⟩ : Screen).read? (escape :: '[' :: parameters ++ ['m']) =
      some ⟨.nothing, select inForce parameters, shown⟩ := by
  have begun :
      (⟨.nothing, inForce, shown⟩ : Screen).read? [escape, '['] =
        some ⟨.parameters [], inForce, shown⟩ := rfl
  have ended (reversed : Text) :
      (⟨.parameters reversed, inForce, shown⟩ : Screen).read? ['m'] =
        some ⟨.nothing, select inForce reversed.reverse, shown⟩ := rfl
  have shape : escape :: '[' :: parameters ++ ['m'] = [escape, '['] ++ parameters ++ ['m'] := rfl
  rw [shape, read?_append, read?_append, begun, Option.bind_some, read?_parameters made,
    Option.bind_some, ended]
  simp

/-- A painted text is read as its characters with its codes in force, which are then reset. -/
theorem read?_paint
    {codes t : Text}
    (made : ∀ c ∈ codes, c.isDigit ∨ c = ';')
    (noReset : codes ≠ ['0'])
    (plain : escape ∉ t)
    (shown : List Cell) :
    (atRest shown).read? (paint codes t) =
      some (atRest (shown ++ t.map fun c => ⟨c, if codes = [] then [] else [codes]⟩)) := by
  by_cases noCodes : codes = []
  · subst noCodes
    simpa [paint, atRest] using read?_of_not_escape plain [] shown
  by_cases noText : t = []
  · subst noText
    simp [paint, read?]
  have chosen : select [] codes = [codes] := by simp [select, noCodes, noReset]
  have painted : paint codes t = escape :: '[' :: codes ++ ['m'] ++ t ++ [escape, '[', '0', 'm'] := by
    simp [paint, noCodes, noText]
  have zero : ∀ c ∈ ['0'], c.isDigit ∨ c = ';' := by simp
  have reset (cells : List Cell) :
      (⟨.nothing, [codes], cells⟩ : Screen).read? [escape, '[', '0', 'm'] =
        some (atRest cells) :=
    read?_sequence zero [codes] cells
  simp only [painted, read?_append, atRest, read?_sequence made, chosen,
    read?_of_not_escape plain, Option.bind_some, noCodes, ↓reduceIte, reset]

/-- What was shown before plays no part in what is read. -/
theorem read?_behind
    (before : List Cell)
    (screen : Screen)
    (t : Text) :
    ({ screen with shown := before ++ screen.shown } : Screen).read? t =
      (screen.read? t).map fun later => { later with shown := before ++ later.shown } := by
  induction t generalizing screen with
  | nil => rfl
  | cons c rest inductionHypothesis =>
      have first :
          ({ screen with shown := before ++ screen.shown } : Screen).next? c =
            (screen.next? c).map fun later => { later with shown := before ++ later.shown } := by
        rcases screen with ⟨pending, inForce, shown⟩
        cases pending with
        | nothing => by_cases isEscape : c = escape <;> simp [next?, isEscape]
        | escape => by_cases isBracket : c = '[' <;> simp [next?, isBracket]
        | parameters reversed =>
            by_cases isLetter : c = 'm'
            · simp [next?, isLetter]
            · by_cases isMade : c.isDigit = true ∨ c = ';' <;> simp [next?, isLetter, isMade]
      rw [read?_cons, read?_cons, first]
      cases screen.next? c with
      | none => rfl
      | some next => exact inductionHypothesis next

/-- What a screen has shown already does not decide how it reads on. -/
theorem read?_alone
    {screen later : Screen}
    {t : Text}
    (reads : screen.read? t = some later) :
    ∃ cells,
      ({ screen with shown := [] } : Screen).read? t = some { later with shown := cells } ∧
      later.shown = screen.shown ++ cells := by
  have behind := read?_behind screen.shown { screen with shown := [] } t
  simp only [List.append_nil, reads] at behind
  rcases Option.map_eq_some_iff.mp behind.symm with ⟨alone, aloneReads, rfl⟩
  exact ⟨alone.shown, aloneReads, rfl⟩

/-- A line feed is no part of a sequence. -/
theorem next?_feed
    {screen later : Screen}
    (reads : screen.next? '\n' = some later) :
    screen.pending = .nothing ∧
      later = { screen with shown := screen.shown ++ [⟨'\n', screen.inForce⟩] } := by
  rcases screen with ⟨pending, inForce, shown⟩
  cases pending with
  | nothing => exact ⟨rfl, (Option.some.inj reads).symm⟩
  | escape => cases reads
  | parameters reversed => cases reads

/-- A text read with feeds at rest can be read line by line. -/
theorem read?_lines
    {parts : List Text}
    {before after : List Cell}
    (reads : (atRest before).read? (Text.joinLines parts) = some (atRest after))
    (feeds : ∀ cell ∈ after, cell.char = '\n' → cell.inForce = []) :
    ∀ line ∈ parts, ∃ cells, (atRest []).read? line = some (atRest cells) := by
  fun_induction Text.joinLines parts generalizing before with
  | case1 => simp
  | case2 only =>
      intro line member
      rcases read?_alone reads with ⟨cells, alone, _⟩
      rw [List.mem_singleton.mp member]
      exact ⟨cells, alone⟩
  | case3 first next rest inductionHypothesis =>
      rw [read?_append] at reads
      rcases Option.bind_eq_some_iff.mp reads with ⟨atFeed, readsFirst, readsRest⟩
      rw [read?_cons] at readsRest
      rcases Option.bind_eq_some_iff.mp readsRest with ⟨behindFeed, readsFeed, readsLater⟩
      rcases next?_feed readsFeed with ⟨idle, rfl⟩
      rcases atFeed with ⟨pending, inForce, shown⟩
      cases idle
      -- The line feed is shown in the end, so nothing is in force where it is read.
      have shownInTheEnd : ⟨'\n', inForce⟩ ∈ after := by
        rcases read?_alone readsLater with ⟨cells, _, shape⟩
        have shape : after = shown ++ [⟨'\n', inForce⟩] ++ cells := shape
        simp [shape]
      cases feeds _ shownInTheEnd rfl
      intro line member
      rcases List.mem_cons.mp member with rfl | later
      · rcases read?_alone readsFirst with ⟨cells, alone, _⟩
        exact ⟨cells, alone⟩
      · exact inductionHypothesis readsLater line later

end Screen

/-- The codes of a style, if there are any, do not begin with a reset. -/
def Leads (codes : List Nat) : Prop :=
  ∀ code, codes.head? = some code → 0 < code

namespace Leads

theorem append
    {front back : List Nat}
    (frontLeads : Leads front)
    (backLeads : Leads back) :
    Leads (front ++ back) := by
  cases front with
  | nil => exact backLeads
  | cons code rest => exact frontLeads

theorem attributes (style : Style) : Leads (style.switchedOn.map Attribute.code) := by
  intro code first
  rcases List.mem_map.mp (List.mem_of_mem_head? first) with ⟨trait, _, rfl⟩
  cases trait <;> decide

theorem colour (foreground : Bool) (hue : Hue) : Leads (Colour.codes foreground hue) := by
  intro code first
  cases hue with
  | terminalDefault => cases foreground <;> cases first <;> decide
  | numbered n =>
      simp only [Colour.codes] at first
      split at first
      · cases foreground <;> cases first <;> exact Nat.add_pos_left (by decide) n
      · split at first
        · cases foreground <;> cases first <;> exact Nat.add_pos_left (by decide) n
        · cases foreground <;> cases first <;> decide
  | direct red green blue => cases foreground <;> cases first <;> decide

theorem empty : Leads [] := by
  intro code first
  cases first

/-- All codes of a style lead a sequence. -/
theorem codes (system : ColourSystem) (style : Style) : Leads (style.codes system) := by
  rcases style with ⟨traits, foreground, background⟩
  refine ((attributes _).append ?_).append ?_
  · cases foreground with
    | none => exact empty
    | some chosen => exact colour true (chosen.shownIn system)
  · cases background with
    | none => exact empty
    | some chosen => exact colour false (chosen.shownIn system)

end Leads

/-- A character of separated parts is of the separator or of a part. -/
theorem mem_separated
    {separator : Text}
    {parts : List Text}
    {c : Char}
    (member : c ∈ separated separator parts) :
    c ∈ separator ∨ ∃ part ∈ parts, c ∈ part := by
  fun_induction separated separator parts with
  | case1 => cases member
  | case2 last => exact .inr ⟨last, List.mem_cons_self, member⟩
  | case3 first next rest inductionHypothesis =>
      rcases List.mem_append.mp member with inFront | inRest
      · rcases List.mem_append.mp inFront with inFirst | inSeparator
        · exact .inr ⟨first, List.mem_cons_self, inFirst⟩
        · exact .inl inSeparator
      · rcases inductionHypothesis inRest with inSeparator | ⟨part, among, inPart⟩
        · exact .inl inSeparator
        · exact .inr ⟨part, List.mem_cons_of_mem first among, inPart⟩

/-- The codes of a style are written with digits and semicolons. -/
theorem made_codeText
    {system : ColourSystem}
    {style : Style}
    {c : Char}
    (member : c ∈ style.codeText system) :
    c.isDigit ∨ c = ';' := by
  rcases mem_separated member with inSeparator | ⟨part, among, inPart⟩
  · exact .inr (List.mem_singleton.mp inSeparator)
  · rcases List.mem_map.mp among with ⟨code, _, rfl⟩
    exact .inl (Nat.isDigit_of_mem_toDigits (by decide) (by decide) inPart)

/-- No style's codes read as a reset. -/
theorem codeText_ne_reset
    (system : ColourSystem)
    (style : Style) :
    style.codeText system ≠ ['0'] := by
  have leads := Leads.codes system style
  unfold codeText
  generalize style.codes system = codes at leads
  cases codes with
  | nil => simp [separated]
  | cons code rest =>
      cases rest with
      | nil =>
          intro same
          have zero : Nat.ofDigitChars 10 (Nat.toDigits 10 code) 0 = Nat.ofDigitChars 10 ['0'] 0 :=
            congrArg (fun digits => Nat.ofDigitChars 10 digits 0) same
          rw [Nat.ofDigitChars_ten_toDigits] at zero
          exact absurd (leads code rfl) (by simp [zero, Nat.ofDigitChars])
      | cons next more =>
          intro same
          have semicolon : ';' ∈ ['0'] := by
            rw [← same]
            simp [separated]
          revert semicolon
          decide

/-- The parameters that are in force where a style shows a text. -/
def parameters (system : ColourSystem) (style : Style) : List Text :=
  if style.codeText system = [] then [] else [style.codeText system]

/-- A text in a style is shown with the codes of the style, and nothing is in force behind it. -/
theorem read?_render
    (system : ColourSystem)
    (style : Style)
    {t : Text}
    (plain : escape ∉ t)
    (shown : List Cell) :
    (Screen.atRest shown).read? (style.render system t) =
      some (.atRest (shown ++ t.map fun c => ⟨c, style.parameters system⟩)) :=
  Screen.read?_paint (fun _ => made_codeText) (codeText_ne_reset system style) plain shown

end Splice.Style
