import ParserCombinators.Proofs.FailurePlaces
import ParserCombinators.Proofs.Region.Isolation

/-!
# What follows a delimiter is not seen

A parser that runs up to a delimiter gives the same reply whatever comes behind that delimiter, and the
rest of the input comes out of it as it went in.  Two runs on inputs that differ there cannot be told
apart.

* **The region.**  The first occurrence of the delimiter may start before the one that is known to be
  there, and overlap it.  It cannot start later, so it ends no later either, and all of it is text that the
  two inputs have in common (`Text.IsBefore.append`).
* **The reply.**  The inner parser gets the region and nothing else.  Its failure comes out at a place that
  is computed from the region alone.  So the reply in front of a tail is the reply in front of nothing,
  with the tail behind the place that it names (`upToText_inFrontOf`).
-/

namespace ParserCombinators

/-! ## Input with more behind it -/

/-- The same place in an input that goes on with `tail`. -/
def Cursor.inFrontOf (cursor : Cursor) (tail : Text) : Cursor :=
  ⟨cursor.remaining ++ tail, cursor.position⟩

theorem Cursor.past_inFrontOf {cursor : Cursor} {text : Text} (h : text <+: cursor.remaining)
    (tail : Text) : (cursor.inFrontOf tail).past text = (cursor.past text).inFrontOf tail := by
  rw [past, inFrontOf, inFrontOf, past, List.drop_append_of_le_length h.length_le]

/-- The same reply about an input that goes on with `tail`. -/
def Reply.inFrontOf {α : Type} (tail : Text) : Reply α → Reply α
  | .matched value rest => .matched value (rest.inFrontOf tail)
  | .failed failure => .failed ⟨failure.cursor.inFrontOf tail, failure.message⟩
  | .fault cause => .fault cause

namespace Parser

variable {α : Type} {delimiter region : Text} {cursor : Cursor}

/-- Where the delimiter occurs in the input, the reply does not depend on what is put behind it. -/
theorem upToText_inFrontOf (h : Text.IsBefore delimiter cursor.remaining region) (p : Parser α)
    (skip : Bool) (tail : Text) :
    p.upToText delimiter skip (cursor.inFrontOf tail) =
      (p.upToText delimiter skip cursor).inFrontOf tail := by
  have hbehind : Text.IsBefore delimiter (cursor.inFrontOf tail).remaining region := h.append tail
  rw [upToText_eq h, upToText_eq hbehind]
  cases p.parse region with
  | matched value inner =>
      have hconsumed : region ++ (if skip then delimiter else []) <+: cursor.remaining := by
        cases skip with
        | true => exact h.occurs
        | false => simpa using h.isPrefix
      rw [Reply.handle_matched, Reply.handle_matched, Cursor.past_inFrontOf hconsumed]
      rfl
  | failed inner =>
      have hconsumed : consumedAt region inner <+: cursor.remaining :=
        (consumedAt_isPrefix region inner).trans h.isPrefix
      rw [Reply.handle_failed, Reply.handle_failed, Cursor.past_inFrontOf hconsumed]
      rfl
  | fault cause => rfl

/-- Whatever the inner parser does, a reply up to a delimiter names a place that is reached. -/
theorem keptBy_pointing_upToText (p : Parser α) (delimiter : Text) (skip : Bool) :
    Contract.pointing.KeptBy (p.upToText delimiter skip) :=
  (Contract.keptBy_unrestricted p).upToText (fun _ _ => trivial) delimiter skip

/-- Two inputs that go on in different ways behind a delimiter get the same reply: the same value after
the same text, or the same message at the same place.  If the inner parser is at fault on what stands
before the delimiter, both runs are. -/
theorem text_behind_delimiter_is_not_seen (p : Parser α) (delimiter : Text) (skip : Bool)
    (position : Position) (before first second : Text) :
    (∃ value consumed left, before ++ delimiter = consumed ++ left ∧
      p.upToText delimiter skip ⟨before ++ delimiter ++ first, position⟩ =
        .matched value ⟨left ++ first, position.afterText consumed⟩ ∧
      p.upToText delimiter skip ⟨before ++ delimiter ++ second, position⟩ =
        .matched value ⟨left ++ second, position.afterText consumed⟩) ∨
    (∃ message consumed left, before ++ delimiter = consumed ++ left ∧
      p.upToText delimiter skip ⟨before ++ delimiter ++ first, position⟩ =
        .failed ⟨⟨left ++ first, position.afterText consumed⟩, message⟩ ∧
      p.upToText delimiter skip ⟨before ++ delimiter ++ second, position⟩ =
        .failed ⟨⟨left ++ second, position.afterText consumed⟩, message⟩) ∨
    ∃ region cause, Text.IsBefore delimiter (before ++ delimiter) region ∧
      p.parse region = .fault cause ∧
      p.upToText delimiter skip ⟨before ++ delimiter ++ first, position⟩ = .fault cause ∧
      p.upToText delimiter skip ⟨before ++ delimiter ++ second, position⟩ = .fault cause := by
  obtain ⟨region, hregion⟩ : ∃ region, Text.IsBefore delimiter (before ++ delimiter) region :=
    Text.exists_isBefore List.prefix_rfl
  have hrun (tail : Text) : p.upToText delimiter skip ⟨before ++ delimiter ++ tail, position⟩ =
      (p.upToText delimiter skip ⟨before ++ delimiter, position⟩).inFrontOf tail :=
    @upToText_inFrontOf α delimiter region ⟨before ++ delimiter, position⟩ hregion p skip tail
  have hplace := keptBy_pointing_upToText p delimiter skip ⟨before ++ delimiter, position⟩
  rw [hrun first, hrun second]
  cases hreply : p.upToText delimiter skip ⟨before ++ delimiter, position⟩ with
  | matched value rest =>
      rw [hreply] at hplace
      obtain ⟨left, behind⟩ := rest
      obtain ⟨consumed, hremaining, rfl⟩ := hplace
      exact .inl ⟨value, consumed, left, hremaining, rfl, rfl⟩
  | failed failure =>
      rw [hreply] at hplace
      obtain ⟨⟨left, behind⟩, message⟩ := failure
      obtain ⟨consumed, hremaining, rfl⟩ := hplace
      exact .inr (.inl ⟨message, consumed, left, hremaining, rfl, rfl⟩)
  | fault cause =>
      have hisolates : Isolates p (p.upToText delimiter skip) ⟨before ++ delimiter, position⟩ region :=
        .upToText skip hregion
      exact .inr (.inr ⟨region, cause, hregion, hisolates.eq_fault_iff.mp hreply, rfl, rfl⟩)

/-- Of `a-` and two dashes the first two dashes are the delimiter, whether or not another one follows. -/
example :
    anyChar.upToText ['-', '-'] true ⟨['a', '-'] ++ ['-', '-'] ++ ['x'], ⟨5, 1, 2⟩⟩ =
        .matched 'a' ⟨['-'] ++ ['x'], ⟨8, 1, 5⟩⟩ ∧
      anyChar.upToText ['-', '-'] true ⟨['a', '-'] ++ ['-', '-'] ++ ['-', '-'], ⟨5, 1, 2⟩⟩ =
        .matched 'a' ⟨['-'] ++ ['-', '-'], ⟨8, 1, 5⟩⟩ := by
  decide

end Parser

end ParserCombinators
