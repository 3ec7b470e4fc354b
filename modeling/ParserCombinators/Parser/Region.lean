import ParserCombinators.Parser.Run

/-!
# Regions

A region is the stretch of input before a delimiter.  A parser runs on a region as on a whole text
of its own: its positions start from zero and it cannot see what lies behind.  Its failure is
then moved back to the place in the outer input that it speaks of.

The end of a region is found in one of two ways: by searching for a text (`upToText`), or by
trying a parser at one place after the other (`upTo`).
-/

namespace ParserCombinators.Parser

variable {α β : Type}

/-! ## A parser inside a region -/

/-- How many bytes of the region had been consumed where an inner failure points.  The number is
found from the bytes that remain there, and is zero when it belongs to no place in the region. -/
def bytesConsumedAt (region : Text) (inner : Failure) : Nat :=
  if inner.cursor.remaining.byteLength ≤ region.byteLength ∧
      region.isBoundary (region.byteLength - inner.cursor.remaining.byteLength) = true then
    region.byteLength - inner.cursor.remaining.byteLength
  else 0

/-- The part of the region that had been consumed where an inner failure points. -/
def consumedAt (region : Text) (inner : Failure) : Text :=
  match Text.cut? (bytesConsumedAt region inner) region with
  | some (front, _) => front
  | none => []

theorem cut?_bytesConsumedAt (region : Text) (inner : Failure) :
    ∃ front back, Text.cut? (bytesConsumedAt region inner) region = some (front, back) := by
  unfold bytesConsumedAt
  split
  · next hplace =>
      obtain ⟨parts, hparts⟩ := Option.isSome_iff_exists.mp hplace.2
      exact ⟨parts.1, parts.2, hparts⟩
  · exact ⟨[], region, Text.cut?_zero region⟩

theorem consumedAt_isPrefix (region : Text) (inner : Failure) :
    consumedAt region inner <+: region := by
  obtain ⟨front, back, hcut⟩ := cut?_bytesConsumedAt region inner
  rw [consumedAt, hcut]
  exact ⟨back, (Text.append_of_cut? hcut).1.symm⟩

theorem ahead_bytesConsumedAt (region : Text) (inner : Failure) :
    (Cursor.ofText region).ahead (bytesConsumedAt region inner) = .ok (consumedAt region inner) := by
  obtain ⟨front, back, hcut⟩ := cut?_bytesConsumedAt region inner
  simp [Cursor.ahead, Cursor.ofText, consumedAt, hcut]

/-- Runs `p` on a region that starts here, without moving on. -/
def inRegion (p : Parser α) (region : Text) : Parser α := fun outer =>
  (parse p region).handle (fun value _ => .matched value outer) fun inner =>
    .afterMove ((Cursor.ofText region).ahead (bytesConsumedAt region inner)) fun front =>
      .afterMove (outer.advance front) fun place => .failed ⟨place, inner.message⟩

/-- A failure inside a region that starts here is moved to behind what the region had consumed. -/
theorem inRegion_eq {p : Parser α} {region : Text} {outer : Cursor}
    (hregion : region <+: outer.remaining) :
    inRegion p region outer =
      (parse p region).handle (fun value _ => .matched value outer) fun inner =>
        .failed ⟨outer.past (consumedAt region inner), inner.message⟩ := by
  have hplace (inner : Failure) : outer.advance (consumedAt region inner) =
      .ok (outer.past (consumedAt region inner)) :=
    Cursor.advance_eq_past ((consumedAt_isPrefix region inner).trans hregion)
  simp only [inRegion, ahead_bytesConsumedAt, Reply.afterMove_ok, hplace]

/-! ## Up to a text -/

/-- Runs `p` on the input before the first occurrence of `delimiter`, and moves up to it, or past
it when `skip` is set. -/
def upToText (p : Parser α) (delimiter : Text) (skip : Bool) : Parser α := fun cursor =>
  match Text.find? delimiter cursor.remaining with
  | none => .mismatch cursor (.missingDelimiter delimiter)
  | some offset =>
      .afterMove (cursor.ahead offset) fun region =>
        (inRegion p region cursor).andThen fun value _ =>
          .afterMove (cursor.advance region) fun behind =>
            if skip then (take delimiter.byteLength behind).map fun _ => value
            else .matched value behind

/-! ## Up to a match -/

/-- Looks for the first place from `cursor` on where `limit` matches, trying at most `places`
places.  The value says where that is and what was matched there. -/
def seek (limit : Parser β) (origin : Cursor) : Nat → Parser (Cursor × β)
  | 0, _ => .fault .diverged
  | places + 1, cursor =>
      (limit cursor).handle (fun value rest => .matched (cursor, value) rest) fun _ =>
        match cursor.peek with
        | none => .mismatch origin .missingLimit
        | some c => .afterMove (cursor.stepOver c) fun next => seek limit origin places next

/-- Runs `p` on the input before the first match of `limit`, and moves past that match. -/
def upTo (p : Parser α) (limit : Parser β) : Parser (α × β) := fun cursor =>
  (seek limit cursor (cursor.remaining.length + 1) cursor).andThen fun found rest =>
    .afterMove (cursor.textUpTo found.1) fun region =>
      (inRegion p region cursor).andThen fun value _ => .matched (value, found.2) rest

end ParserCombinators.Parser
