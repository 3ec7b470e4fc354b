import ParserCombinators.Parser.Number
import ParserCombinators.Proofs.Region.Placement
import ParserCombinators.Proofs.Shift.Basic

/-!
# Failures come out of regions with their exact place

A failure that points into a region is reported at the same place of the outer input.  What remains there
is what remained in the region and then everything behind the region, and the position has advanced from
the start of the region over the text that had been consumed in it.

* `Level.outside` takes a place in one region to the outer input.  One region moves its failure by it
  (`Isolates.failed_outside`), and the result again points into the input.
* So the step can be repeated.  `FailsWithin` describes how a parser comes to fail inside regions inside
  each other: it fails itself, or it is a parser on a region inside which this happens, or it gets to
  such a parser and passes its failure on.
* By induction on this, the failure comes out through all the levels (`FailsWithin.failed`), and the
  offsets of the places where the regions start add up (`offset_outside`).
-/

namespace ParserCombinators.Parser

variable {α β γ : Type} {p : Parser α} {q : Parser γ} {cursor : Cursor} {region : Text}
  {inner : Failure}

/-! ## Out of one region -/

/-- A region and the place in the outer input where it starts. -/
structure Level where
  start : Cursor
  region : Text

/-- The place in the outer input that a place in the region is. -/
def Level.outside (level : Level) (place : Cursor) : Cursor where
  remaining := place.remaining ++ level.start.remaining.drop level.region.length
  position := level.start.position.plus place.position

theorem Level.outside_eq_past {level : Level} (hahead : level.region <+: level.start.remaining)
    {place : Cursor} {consumed : Text} (hregion : level.region = consumed ++ place.remaining)
    (hposition : place.position = Position.start.afterText consumed) :
    level.outside place = level.start.past consumed := by
  obtain ⟨behind, hbehind⟩ := hahead
  have hremaining : level.start.remaining = consumed ++ (place.remaining ++ behind) := by
    rw [← hbehind, hregion, List.append_assoc]
  have hdrop : level.start.remaining.drop level.region.length = behind := by
    rw [← hbehind, List.drop_left]
  rw [outside, hdrop, hposition, ← Position.afterText_plus, Position.plus_start, Cursor.past,
    hremaining, List.drop_left]

/-- A failure that points into the region comes out at its place in the outer input. -/
theorem Isolates.failed_outside (h : Isolates p q cursor region)
    (hinner : p.parse region = .failed inner) (hreaches : (Cursor.ofText region).Reaches inner.cursor) :
    q cursor = .failed ⟨Level.outside ⟨cursor, region⟩ inner.cursor, inner.message⟩ ∧
      cursor.Reaches (Level.outside ⟨cursor, region⟩ inner.cursor) := by
  obtain ⟨consumed, htext, hposition⟩ := hreaches
  have hregion : region = consumed ++ inner.cursor.remaining := htext
  have hplace : Level.outside ⟨cursor, region⟩ inner.cursor = cursor.past consumed :=
    Level.outside_eq_past h.isPrefix hregion hposition
  have hconsumed : consumed <+: region := ⟨inner.cursor.remaining, hregion.symm⟩
  rw [h.failed hinner, consumedAt_eq hregion rfl, hplace]
  exact ⟨rfl, Cursor.reaches_past (hconsumed.trans h.isPrefix)⟩

/-! ## Out of regions inside each other -/

/-- The parser fails at the cursor because of a failure inside the regions `levels`, the outermost first;
`inner` is that failure as the innermost parser reports it. -/
inductive FailsWithin : {α : Type} → Parser α → Cursor → List Level → Failure → Prop
  /-- The parser itself fails, at a place that it reaches. -/
  | here {α : Type} {p : Parser α} {cursor : Cursor} {inner : Failure} :
      p cursor = .failed inner → cursor.Reaches inner.cursor → FailsWithin p cursor [] inner
  /-- The failure happens on a region that starts at the cursor. -/
  | inside {α γ : Type} {p : Parser α} {q : Parser γ} {cursor : Cursor} {region : Text}
      {levels : List Level} {inner : Failure} :
      Isolates p q cursor region → FailsWithin p (.ofText region) levels inner →
        FailsWithin q cursor (⟨cursor, region⟩ :: levels) inner
  /-- The parser comes to a place where another one fails, and its failure stands. -/
  | passedOn {α γ : Type} {p : Parser α} {q : Parser γ} {cursor place : Cursor}
      {levels : List Level} {inner : Failure} :
      cursor.Reaches place → (∀ failure, p place = .failed failure → q cursor = .failed failure) →
        FailsWithin p place levels inner → FailsWithin q cursor levels inner

/-- A change of the value passes failures on. -/
theorem FailsWithin.map {levels : List Level} (h : FailsWithin p cursor levels inner) (f : α → β) :
    FailsWithin (p.map f) cursor levels inner := by
  refine .passedOn (.refl cursor) (fun failure hfailed => ?_) h
  rw [Parser.map, hfailed, Reply.map_failed]

/-- A sequence that has come to its second part passes the failure of that part on. -/
theorem FailsWithin.pair_of_matched {first : Parser β} {left : β} {place : Cursor}
    {levels : List Level} (hfirst : first cursor = .matched left place)
    (hreaches : cursor.Reaches place) (h : FailsWithin p place levels inner) :
    FailsWithin (first.pair p) cursor levels inner := by
  refine .passedOn hreaches (fun failure hfailed => ?_) h
  rw [pair, hfirst, Reply.andThen_matched, hfailed, Reply.andThen_failed]

/-- The induction is on how the parser comes to fail; that the failure points into the input is what the
next region outside needs to know of it. -/
theorem FailsWithin.failed {levels : List Level} (h : FailsWithin p cursor levels inner) :
    p cursor = .failed ⟨levels.foldr Level.outside inner.cursor, inner.message⟩ ∧
      cursor.Reaches (levels.foldr Level.outside inner.cursor) := by
  induction h with
  | here hfailed hreaches => exact ⟨hfailed, hreaches⟩
  | inside hregion _ ih => exact hregion.failed_outside ih.1 ih.2
  | passedOn hreaches hstands _ ih => exact ⟨hstands _ ih.1, hreaches.trans ih.2⟩

/-- The offsets at which the regions start, each in the text around it, added up. -/
def startOffsets : List Level → Nat
  | [] => 0
  | level :: levels => level.start.position.offset + startOffsets levels

theorem offset_outside (levels : List Level) (place : Cursor) :
    (levels.foldr Level.outside place).position.offset =
      startOffsets levels + place.position.offset := by
  induction levels with
  | nil => rw [List.foldr_nil, startOffsets, Nat.zero_add]
  | cons level levels ih =>
      rw [List.foldr_cons, Level.outside, Position.offset_plus, ih, startOffsets, Nat.add_assoc]

/-- A failure inside a region is reported with its message at the place in the outer input where it
happened.  Through regions inside each other, each level adds the offset of its start. -/
theorem failure_comes_out_at_its_place (h : Isolates p q cursor region) :
    (∀ (inner : Failure) (consumed : Text), p.parse region = .failed inner →
      region = consumed ++ inner.cursor.remaining →
      inner.cursor.position = Position.start.afterText consumed →
        q cursor = .failed
          ⟨⟨inner.cursor.remaining ++ cursor.remaining.drop region.length,
            cursor.position.afterText consumed⟩, inner.message⟩ ∧
        (cursor.position.afterText consumed).offset =
          cursor.position.offset + inner.cursor.position.offset) ∧
    ∀ (levels : List Level) (inner : Failure), FailsWithin p (.ofText region) levels inner →
      ∃ place,
        q cursor = .failed ⟨place, inner.message⟩ ∧
        place = Level.outside ⟨cursor, region⟩ (levels.foldr Level.outside inner.cursor) ∧
        place.position.offset =
          cursor.position.offset + startOffsets levels + inner.cursor.position.offset := by
  constructor
  · intro inner consumed hinner hregion hposition
    have hout := (h.failed_outside hinner ⟨consumed, hregion, hposition⟩).1
    have hplus : cursor.position.plus inner.cursor.position = cursor.position.afterText consumed := by
      rw [hposition, ← Position.afterText_plus, Position.plus_start]
    rw [Level.outside, hplus] at hout
    exact ⟨hout, by rw [← hplus, Position.offset_plus]⟩
  · intro levels inner hinner
    have hwithin : FailsWithin q cursor (⟨cursor, region⟩ :: levels) inner := .inside h hinner
    refine ⟨_, hwithin.failed.1, rfl, ?_⟩
    rw [offset_outside, startOffsets]

/-- An accented letter and then a number on the next line, up to a bracket. -/
def numberBelow : Parser Int :=
  (char 'é').keepRight (((char '\n').keepRight integer).upToText [']'] true)

/-- There is no number behind the line feed.  The failure comes out of the brackets, and then out of what
stands before the semicolon; in two steps or at once, it gets to the same place. -/
theorem failure_below_comes_out_of_both_regions :
    Isolates numberBelow (numberBelow.upToText [';'] false) ⟨['é', '\n', 'x', ']', ';'], ⟨5, 1, 2⟩⟩
        ['é', '\n', 'x', ']'] ∧
      ∃ message,
        ((char '\n').keepRight integer).parse ['\n', 'x'] =
          .failed ⟨⟨['x'], ⟨1, 1, 0⟩⟩, message⟩ ∧
        numberBelow.parse ['é', '\n', 'x', ']'] = .failed ⟨⟨['x', ']'], ⟨2, 1, 0⟩⟩, message⟩ ∧
        numberBelow.upToText [';'] false ⟨['é', '\n', 'x', ']', ';'], ⟨5, 1, 2⟩⟩ =
          .failed ⟨⟨['x', ']', ';'], ⟨7, 2, 0⟩⟩, message⟩ ∧
        ∃ place,
          numberBelow.upToText [';'] false ⟨['é', '\n', 'x', ']', ';'], ⟨5, 1, 2⟩⟩ =
            .failed ⟨place, message⟩ ∧ place.position.offset = 5 + (1 + 0) + 1 := by
  have hsemicolon : Text.IsBefore [';'] [';'] [] := Text.isBefore_nil (by decide)
  have hbracket : Text.IsBefore [']'] [']'] [] := Text.isBefore_nil (by decide)
  have houter : Isolates numberBelow (numberBelow.upToText [';'] false)
      ⟨['é', '\n', 'x', ']', ';'], ⟨5, 1, 2⟩⟩ ['é', '\n', 'x', ']'] :=
    .upToText false ((((hsemicolon.cons (by decide)).cons (by decide)).cons (by decide)).cons
      (by decide))
  have hinner : ∃ message,
      ((char '\n').keepRight integer).parse ['\n', 'x'] = .failed ⟨⟨['x'], ⟨1, 1, 0⟩⟩, message⟩ ∧
        numberBelow.parse ['é', '\n', 'x', ']'] = .failed ⟨⟨['x', ']'], ⟨2, 1, 0⟩⟩, message⟩ :=
    ⟨_, rfl, rfl⟩
  obtain ⟨message, hline, hnumber⟩ := hinner
  have hbelow : FailsWithin numberBelow (.ofText ['é', '\n', 'x', ']'])
      [⟨⟨['\n', 'x', ']'], ⟨1, 0, 1⟩⟩, ['\n', 'x']⟩] ⟨⟨['x'], ⟨1, 1, 0⟩⟩, message⟩ := by
    have hbefore : Text.IsBefore [']'] ['\n', 'x', ']'] ['\n', 'x'] :=
      (hbracket.cons (by decide)).cons (by decide)
    have hbrackets : FailsWithin (((char '\n').keepRight integer).upToText [']'] true)
        ⟨['\n', 'x', ']'], ⟨1, 0, 1⟩⟩ _ _ :=
      .inside (.upToText true hbefore) (.here hline ⟨['\n'], rfl, rfl⟩)
    have hletter : char 'é' (.ofText ['é', '\n', 'x', ']']) =
        .matched 'é' ⟨['\n', 'x', ']'], ⟨1, 0, 1⟩⟩ := rfl
    exact (hbrackets.pair_of_matched hletter ⟨['é'], rfl, rfl⟩).map Prod.snd
  obtain ⟨hone, hnested⟩ := failure_comes_out_at_its_place houter
  obtain ⟨place, hfailed, -, hoffset⟩ := hnested _ _ hbelow
  exact ⟨houter, message, hline, hnumber, (hone _ ['é', '\n'] hnumber rfl rfl).1, place, hfailed,
    hoffset⟩

end ParserCombinators.Parser
