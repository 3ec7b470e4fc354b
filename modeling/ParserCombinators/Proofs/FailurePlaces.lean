import ParserCombinators.Parser.Complete
import ParserCombinators.Proofs.Conservation

/-!
# Where failures point

A failure of a composed parser points to a place in the input, at or behind the place where the parser
started (`Composed.exists_text_before_failure`).  This is a contract: a match has to keep the law of
conservation, because what comes behind it fails from where it ended, and a failure has to point to a
place that is reached.

Nothing at all is asked of the rules inside a region.  Wherever they end and whatever text their
failures point into, the region reports them behind one of its own front parts; so a failure keeps
pointing into the input through any number of regions inside each other.

Outside of regions both laws are needed of a rule written by hand.  One that matches over another text
sends what comes behind it there, and a failure there is no place in the input
(`failure_behind_a_match_elsewhere`).

An error of parsing a whole text therefore always speaks of a place in that text
(`Composed.exists_text_before_error`).
-/

namespace ParserCombinators

variable {α : Type}

/-- Failures point to a place that is reached from where the parser starts. -/
def Pointing (p : Parser α) : Prop :=
  ∀ cursor failure, p cursor = .failed failure → cursor.Reaches failure.cursor

namespace Contract

/-- The contract that asks for conservation and for failures at places that are reached. -/
def pointing : Contract where
  endsAt start rest := start.Reaches rest
  failsAt start place := start.Reaches place
  faults _ := True
  endsAt_of_reaches h := h
  endsAt_trans := .trans
  failsAt_refl := .refl
  failsAt_of_endsAt := .trans
  faults_diverged := trivial

/-- The contract that asks for nothing. -/
def unrestricted : Contract := .onlyFaults (fun _ => True) trivial

theorem keptBy_unrestricted (p : Parser α) : unrestricted.KeptBy p := by
  intro cursor
  cases p cursor <;> trivial

theorem keptBy_pointing {p : Parser α} (hconserving : Conserving p) (hpointing : Pointing p) :
    pointing.KeptBy p := by
  intro cursor
  cases h : p cursor with
  | matched value rest => exact hconserving cursor value rest h
  | failed failure => exact hpointing cursor failure h
  | fault cause => trivial

theorem KeptBy.pointing {p : Parser α} (hp : Contract.pointing.KeptBy p) : Pointing p := by
  intro cursor failure h
  have hallows := hp cursor
  rwa [h, allows_failed] at hallows

end Contract

theorem Composed.keptBy_pointing {outside inside : Given}
    (houtside : ∀ (β : Type) (q : Parser β), outside β q → Conserving q ∧ Pointing q)
    {p : Parser α} (hp : Composed outside inside p) : Contract.pointing.KeptBy p := by
  have hkeep : Given.Keep outside inside .pointing .unrestricted := by
    constructor
    · intro β q hq
      obtain ⟨hconserving, hpointing⟩ := houtside β q hq
      exact Contract.keptBy_pointing hconserving hpointing
    · exact fun β q _ => Contract.keptBy_unrestricted q
    · exact fun β q _ => Contract.keptBy_unrestricted q
    · exact fun _ _ => trivial
  exact hp.keptBy_of_keep hkeep

/-- Every failure points into the input at or behind where the parser started, with the position that
this place has.  The rules written by hand outside of regions have to keep this themselves; those
inside of regions may end anywhere and fail over any text. -/
theorem Composed.exists_text_before_failure {outside inside : Given}
    (houtside : ∀ (β : Type) (q : Parser β), outside β q → Conserving q ∧ Pointing q)
    {p : Parser α} (hp : Composed outside inside p) (cursor : Cursor) {failure : Failure}
    (hfailed : p cursor = .failed failure) :
    ∃ text, cursor.remaining = text ++ failure.cursor.remaining ∧
      failure.cursor.position = cursor.position.afterText text :=
  (Composed.keptBy_pointing houtside hp).pointing cursor failure hfailed

/-- A rule written by hand that fails behind the next character. -/
def refused : Parser Int := fun cursor => .failed ⟨cursor.past (cursor.remaining.take 1), "refused"⟩

theorem conserving_refused : Conserving refused := by
  intro cursor value rest hmatch
  simp [refused] at hmatch

theorem pointing_refused : Pointing refused := by
  intro cursor failure hfailed
  cases hfailed
  exact Cursor.reaches_past (List.take_prefix 1 _)

/-- A number on a line of its own, within two regions, or what is refused. -/
def lineInRegions : Parser (Char × Int) :=
  (Parser.char 'é').pair
    (((((Parser.char '\n').keepRight (elsewhere.orElse .integer)).upToText [']'] true).upToText
      [';'] true).orElse refused)

theorem composed_lineInRegions : Composed (.only refused) (.only elsewhere) lineInRegions := by
  refine .pair (.char _) (.orElse (.upToText _ _ (.upToText _ _ ?_)) (.given rfl))
  exact Composed.keepRight (.char _) (.orElse (.given rfl) .integer)

/-- The failure behind the line feed comes out of both regions, and what is refused lies no further. -/
theorem exists_text_before_failure_of_lineInRegions :
    (∃ message, lineInRegions ⟨['é', '\n', 'x', ']', ';'], ⟨5, 1, 2⟩⟩ =
      .failed ⟨⟨['x', ']', ';'], ⟨7, 2, 0⟩⟩, message⟩) ∧
    ∃ text, ['é', '\n', 'x', ']', ';'] = text ++ ['x', ']', ';'] ∧
      (⟨7, 2, 0⟩ : Position) = (⟨5, 1, 2⟩ : Position).afterText text := by
  have hrefused (β : Type) (q : Parser β) (hq : Given.only refused β q) :
      Conserving q ∧ Pointing q := by
    cases hq
    exact ⟨conserving_refused, pointing_refused⟩
  have hfailed : ∃ message, lineInRegions ⟨['é', '\n', 'x', ']', ';'], ⟨5, 1, 2⟩⟩ =
      .failed ⟨⟨['x', ']', ';'], ⟨7, 2, 0⟩⟩, message⟩ := ⟨_, rfl⟩
  obtain ⟨message, hmessage⟩ := hfailed
  exact ⟨⟨message, hmessage⟩, composed_lineInRegions.exists_text_before_failure hrefused _ hmessage⟩

/-- A rule written by hand that matches over another text. -/
def matchedElsewhere : Parser Unit := fun _ => .matched () (.ofText ['z'])

/-- A rule that never fails does not fail at a wrong place, but what comes behind it can. -/
theorem failure_behind_a_match_elsewhere :
    Pointing matchedElsewhere ∧
    Composed (.only matchedElsewhere) (.only matchedElsewhere)
      (matchedElsewhere.pair (.char 'a')) ∧
    ∃ failure, matchedElsewhere.pair (.char 'a') (.ofText ['a']) = .failed failure ∧
      failure.cursor = .ofText ['z'] ∧
      ¬ ∃ text, ['a'] = text ++ failure.cursor.remaining ∧
        failure.cursor.position = Position.start.afterText text := by
  have hpointing : Pointing matchedElsewhere := by
    intro cursor failure hfailed
    cases hfailed
  refine ⟨hpointing, .pair (.given rfl) (.char 'a'), _, rfl, rfl, ?_⟩
  rintro ⟨text, hremaining, -⟩
  have hlast : ['a'].getLast? = ['z'].getLast? := by
    rw [hremaining]
    exact List.getLast?_concat
  simp at hlast

/-! ## Errors of whole texts -/

/-- What is wrong with a text is reported at a place in the text, whether the parser failed or input
is left over. -/
theorem Composed.exists_text_before_error {outside inside : Given}
    (houtside : ∀ (β : Type) (q : Parser β), outside β q → Conserving q ∧ Pointing q)
    {p : Parser α} (hp : Composed outside inside p) {text : Text} {error : ParseError}
    (hrejected : p.parseComplete text = .rejected error) :
    ∃ front, front <+: text ∧ error.position = Position.start.afterText front := by
  have hallows := Composed.keptBy_pointing houtside hp (.ofText text)
  unfold Parser.parseComplete Parser.parse at hrejected
  cases hreply : p (.ofText text) with
  | matched value rest =>
      rw [hreply] at hallows hrejected
      obtain ⟨front, hfront, hposition⟩ := hallows
      simp only [Reply.verdict] at hrejected
      split at hrejected
      · cases hrejected
      · cases hrejected
        exact ⟨front, ⟨rest.remaining, hfront.symm⟩, hposition⟩
  | failed failure =>
      rw [hreply] at hallows hrejected
      obtain ⟨front, hfront, hposition⟩ := hallows
      cases hrejected
      exact ⟨front, ⟨failure.cursor.remaining, hfront.symm⟩, hposition⟩
  | fault cause =>
      rw [hreply] at hrejected
      cases hrejected

end ParserCombinators
