import ParserCombinators.Proofs.FailurePlaces
import ParserCombinators.Proofs.Shift.Combinators

/-!
# Position independence

What a composed parser reads depends on the text alone and not on where the text starts
(`Composed.sameText_of_position`): two runs over one text from two positions both match, with the same
value and the same text left over, or both fail, with the same message and at the same text.

The two notions that are joined here differ in how much they see.  Position independence compares two
replies by their texts alone and is what one asks of a rule written by hand.  Portability says where the
positions of the two replies are, and is what the combinators keep, because they decide by comparing
positions.  A rule that consumes what it matches and fails at places that it reaches has the one with
the other (`portable_iff_positionIndependent`): its positions follow from its texts.

A rule that matches at other positions than it reaches has only the first, and that is not enough: a
repetition takes the change of position for progress (`position_decides_how_many`).
-/

namespace ParserCombinators

variable {α : Type}

/-- Two replies agree in everything but positions. -/
def Reply.SameText : Reply α → Reply α → Prop
  | .matched value rest, .matched other place => value = other ∧ rest.remaining = place.remaining
  | .failed failure, .failed other =>
      failure.message = other.message ∧ failure.cursor.remaining = other.cursor.remaining
  | .fault cause, .fault other => cause = other
  | _, _ => False

theorem Reply.sameText_shift (origin : Position) (reply : Reply α) :
    (reply.shift origin).SameText reply := by
  cases reply with
  | matched value rest => exact ⟨rfl, rfl⟩
  | failed failure => exact ⟨rfl, rfl⟩
  | fault cause => exact rfl

/-- From every position a text is read as from its start. -/
def PositionIndependent (p : Parser α) : Prop :=
  ∀ text position, (p ⟨text, position⟩).SameText (p.parse text)

theorem Portable.positionIndependent {p : Parser α} (hp : Portable p) : PositionIndependent p := by
  intro text position
  have hshift : p ⟨text, position⟩ = (p.parse text).shift position := hp position (.ofText text)
  rw [hshift]
  exact Reply.sameText_shift position (p.parse text)

/-- The positions of a reply follow from its texts when it consumes what it matches and fails at a
place that it reaches. -/
theorem PositionIndependent.eq_shift {p : Parser α} (hconserving : Conserving p)
    (hpointing : Pointing p) (hp : PositionIndependent p) (cursor : Cursor) :
    p cursor = (p (.ofText cursor.remaining)).shift cursor.position := by
  have hsame : (p cursor).SameText (p (.ofText cursor.remaining)) :=
    hp cursor.remaining cursor.position
  cases hhere : p cursor with
  | matched value rest =>
      cases hthere : p (.ofText cursor.remaining) with
      | matched other place =>
          rw [hhere, hthere] at hsame
          obtain ⟨hvalue, hremaining⟩ := hsame
          rw [Reply.shift_matched, hvalue, Cursor.eq_shift_of_reaches
            (hconserving _ _ _ hhere) (hconserving _ _ _ hthere) hremaining]
      | failed other => simp [hhere, hthere, Reply.SameText] at hsame
      | fault cause => simp [hhere, hthere, Reply.SameText] at hsame
  | failed failure =>
      cases hthere : p (.ofText cursor.remaining) with
      | matched other place => simp [hhere, hthere, Reply.SameText] at hsame
      | failed other =>
          rw [hhere, hthere] at hsame
          obtain ⟨hmessage, hremaining⟩ := hsame
          have hplace := Cursor.eq_shift_of_reaches (hpointing _ _ hhere) (hpointing _ _ hthere)
            hremaining
          obtain ⟨place, message⟩ := failure
          simp only at hmessage hplace
          rw [hmessage, hplace]
          rfl
      | fault cause => simp [hhere, hthere, Reply.SameText] at hsame
  | fault cause =>
      cases hthere : p (.ofText cursor.remaining) with
      | matched other place => simp [hhere, hthere, Reply.SameText] at hsame
      | failed other => simp [hhere, hthere, Reply.SameText] at hsame
      | fault other =>
          rw [hhere, hthere] at hsame
          exact congrArg Reply.fault hsame

theorem portable_iff_positionIndependent {p : Parser α} (hconserving : Conserving p)
    (hpointing : Pointing p) : Portable p ↔ PositionIndependent p := by
  constructor
  · exact Portable.positionIndependent
  · intro hp origin cursor
    calc p (cursor.shift origin)
        = (p (.ofText cursor.remaining)).shift (origin.plus cursor.position) :=
          hp.eq_shift hconserving hpointing (cursor.shift origin)
      _ = ((p (.ofText cursor.remaining)).shift cursor.position).shift origin :=
          (Reply.shift_shift _ origin).symm
      _ = (p cursor).shift origin := by rw [← hp.eq_shift hconserving hpointing cursor]

/-- A composed parser reads a text from every position as from its start, when the rules written by
hand outside of regions do.  Rules inside a region see the region from its start both times. -/
theorem Composed.sameText_of_position {outside inside : Given}
    (houtside : ∀ (β : Type) (q : Parser β), outside β q →
      Conserving q ∧ Pointing q ∧ PositionIndependent q)
    {p : Parser α} (hp : Composed outside inside p) (text : Text) (position : Position) :
    (p ⟨text, position⟩).SameText (p.parse text) := by
  have hportable : Portable p := by
    refine Composed.portable (fun β q hq => ?_) hp
    obtain ⟨hconserving, hpointing, hindependent⟩ := houtside β q hq
    exact (portable_iff_positionIndependent hconserving hpointing).mpr hindependent
  exact hportable.positionIndependent text position

/-- A rule written by hand that reads where it stands. -/
def offsetHere : Parser Int := fun cursor => .matched cursor.position.offset cursor

/-- Words with a semicolon behind each, and the offsets of their ends.  The offsets are read inside of
regions and so do not depend on where the words stand. -/
def wordEnds : Parser (List (Text × Int)) :=
  ((((Parser.takeWhile1 Char.isAlpha).pair offsetHere).upToText [';'] true).orElse
    (refused.map ([], ·))).many1

theorem composed_wordEnds : Composed (.only refused) (.only offsetHere) wordEnds :=
  .many1 (.orElse (.upToText _ _ (.pair (.takeWhile1 _) (.given rfl))) (.map _ (.given rfl)))

theorem sameText_of_position_of_wordEnds :
    wordEnds ⟨['a', 'b', ';', 'c', ';', '!'], ⟨5, 1, 2⟩⟩ =
        .matched [(['a', 'b'], 2), (['c'], 1)] ⟨['!'], ⟨10, 1, 7⟩⟩ ∧
      (wordEnds ⟨['a', 'b', ';', 'c', ';', '!'], ⟨5, 1, 2⟩⟩).SameText
        (wordEnds.parse ['a', 'b', ';', 'c', ';', '!']) := by
  have hrefused (β : Type) (q : Parser β) (hq : Given.only refused β q) :
      Conserving q ∧ Pointing q ∧ PositionIndependent q := by
    cases hq
    exact ⟨conserving_refused, pointing_refused, fun text position => ⟨rfl, rfl⟩⟩
  exact ⟨by decide, composed_wordEnds.sameText_of_position hrefused _ _⟩

/-- A rule written by hand that consumes nothing and goes on over the same text from its start. -/
def restarted : Parser Unit := fun cursor => .matched () (.ofText cursor.remaining)

/-- The texts of its replies are the same everywhere, but a repetition of it reads one value at the start of
a text and two elsewhere: the first match has moved to offset zero, and only the second has not moved. -/
theorem position_decides_how_many :
    Pointing restarted ∧ PositionIndependent restarted ∧
    Composed (.only restarted) (.only restarted) restarted.many1 ∧
    restarted.many1.parse ['x'] = .matched [()] ⟨['x'], ⟨0, 0, 0⟩⟩ ∧
    restarted.many1 ⟨['x'], ⟨5, 0, 5⟩⟩ = .matched [(), ()] ⟨['x'], ⟨0, 0, 0⟩⟩ ∧
    ¬ (restarted.many1 ⟨['x'], ⟨5, 0, 5⟩⟩).SameText (restarted.many1.parse ['x']) := by
  have hpointing : Pointing restarted := by
    intro cursor failure hfailed
    cases hfailed
  have hstart : restarted.many1.parse ['x'] = .matched [()] ⟨['x'], ⟨0, 0, 0⟩⟩ := by decide
  have hlater : restarted.many1 ⟨['x'], ⟨5, 0, 5⟩⟩ = .matched [(), ()] ⟨['x'], ⟨0, 0, 0⟩⟩ := by
    decide
  refine ⟨hpointing, fun text position => ⟨rfl, rfl⟩, .many1 (.given rfl), hstart, hlater, ?_⟩
  rw [hstart, hlater]
  rintro ⟨hvalues, -⟩
  cases hvalues

end ParserCombinators
