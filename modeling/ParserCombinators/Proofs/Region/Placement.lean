import ParserCombinators.Proofs.Conservation
import ParserCombinators.Proofs.Region.Isolation

/-!
# Where a failure of a region is placed

A failure inside a region says what remained where it happened, and nothing else about the place.  The
place in the outer input is found from the number of bytes that remained: it lies behind the front of the
region that leaves over as many (`consumedAt_eq`), and is the start of the region when no front does
(`consumedAt_eq_nil`).

For a failure that points into the region this is its place.  A rule written by hand can fail over a
text that has nothing to do with the region; the bytes of that text are counted all the same, so such a
failure is reported at the start of the region only when no other place leaves over as many bytes.
-/

namespace ParserCombinators.Parser

variable {α γ : Type} {p : Parser α} {q : Parser γ} {cursor : Cursor} {region : Text}
  {inner : Failure}

theorem consumedAt_eq {front back : Text} (hregion : region = front ++ back)
    (hbytes : back.byteLength = inner.cursor.remaining.byteLength) :
    consumedAt region inner = front := by
  have htotal : region.byteLength = front.byteLength + inner.cursor.remaining.byteLength := by
    rw [hregion, Text.byteLength_append, hbytes]
  have hlength : region.byteLength - inner.cursor.remaining.byteLength = front.byteLength := by
    omega
  have hcut : Text.cut? front.byteLength region = some (front, back) :=
    Text.cut?_eq_some_iff.mpr ⟨hregion, rfl⟩
  have hboundary : region.isBoundary front.byteLength = true := by
    rw [Text.isBoundary, hcut, Option.isSome_some]
  have hconsumed : bytesConsumedAt region inner = front.byteLength := by
    rw [bytesConsumedAt, hlength, if_pos ⟨by omega, hboundary⟩]
  rw [consumedAt, hconsumed, hcut]

theorem consumedAt_eq_nil
    (h : ∀ front back, region = front ++ back →
      back.byteLength ≠ inner.cursor.remaining.byteLength) :
    consumedAt region inner = [] := by
  have hnowhere : ¬ (inner.cursor.remaining.byteLength ≤ region.byteLength ∧
      region.isBoundary (region.byteLength - inner.cursor.remaining.byteLength) = true) := by
    rintro ⟨hle, hboundary⟩
    obtain ⟨⟨front, back⟩, hcut⟩ := Option.isSome_iff_exists.mp hboundary
    obtain ⟨hregion, hbytes⟩ := Text.append_of_cut? hcut
    have htotal : region.byteLength = front.byteLength + back.byteLength := by
      rw [hregion, Text.byteLength_append]
    exact h front back hregion (by omega)
  rw [consumedAt, bytesConsumedAt, if_neg hnowhere, Text.cut?_zero]

/-- The bytes left over decide where a failure of a region is reported, whatever text they belong to.
That is the start of the region exactly when no place behind it leaves over as many. -/
theorem failure_placed_by_bytes (h : Isolates p q cursor region)
    (hinner : p.parse region = .failed inner) :
    ∃ front back, region = front ++ back ∧
      q cursor = .failed ⟨cursor.past front, inner.message⟩ ∧
      (back.byteLength = inner.cursor.remaining.byteLength ∨
        front = [] ∧ ∀ first last, region = first ++ last →
          last.byteLength ≠ inner.cursor.remaining.byteLength) ∧
      (cursor.past front = cursor ↔ ∀ first last, region = first ++ last →
        last.byteLength = inner.cursor.remaining.byteLength → first = []) := by
  have hfailed := h.failed hinner
  by_cases hplace : ∃ front back, region = front ++ back ∧
      back.byteLength = inner.cursor.remaining.byteLength
  · obtain ⟨front, back, hregion, hbytes⟩ := hplace
    rw [consumedAt_eq hregion hbytes] at hfailed
    refine ⟨front, back, hregion, hfailed, .inl hbytes, ?_⟩
    rw [Cursor.past_eq_self_iff]
    constructor
    · rintro rfl first last hsplit hlast
      -- both parts leave over the whole region, so nothing comes before the second
      have htotal : first.byteLength + last.byteLength = back.byteLength := by
        rw [← Text.byteLength_append, ← hsplit, hregion, List.nil_append]
      exact Text.byteLength_eq_zero_iff.mp (by omega)
    · exact fun hstart => hstart front back hregion hbytes
  · have hnowhere : ∀ first last, region = first ++ last →
        last.byteLength ≠ inner.cursor.remaining.byteLength :=
      fun first last hsplit hlast => hplace ⟨first, last, hsplit, hlast⟩
    rw [consumedAt_eq_nil hnowhere] at hfailed
    refine ⟨[], region, rfl, hfailed, .inr ⟨rfl, hnowhere⟩, ?_⟩
    constructor
    · exact fun _ first last hsplit hlast => absurd hlast (hnowhere first last hsplit)
    · exact fun _ => Cursor.past_nil cursor

/-- One byte is left over elsewhere, but the only character of the region takes two. -/
theorem failure_within_character_placed_at_start :
    Isolates elsewhere (elsewhere.upToText [';'] false) ⟨['é', ';'], ⟨5, 1, 2⟩⟩ ['é'] ∧
      elsewhere.parse ['é'] = .failed ⟨.ofText ['?'], "not here"⟩ ∧
      elsewhere.upToText [';'] false ⟨['é', ';'], ⟨5, 1, 2⟩⟩ =
        .failed ⟨⟨['é', ';'], ⟨5, 1, 2⟩⟩, "not here"⟩ ∧
      ∃ front back, ['é'] = front ++ back ∧
        elsewhere.upToText [';'] false ⟨['é', ';'], ⟨5, 1, 2⟩⟩ =
          .failed ⟨(Cursor.mk ['é', ';'] ⟨5, 1, 2⟩).past front, "not here"⟩ := by
  have hbehind : Text.IsBefore [';'] [';'] [] := Text.isBefore_nil (by decide)
  have hregion : Isolates elsewhere (elsewhere.upToText [';'] false) ⟨['é', ';'], ⟨5, 1, 2⟩⟩ ['é'] :=
    .upToText false (hbehind.cons (by decide))
  have hinner : elsewhere.parse ['é'] = .failed ⟨.ofText ['?'], "not here"⟩ := rfl
  obtain ⟨front, back, hsplit, hfailed, -⟩ := failure_placed_by_bytes hregion hinner
  exact ⟨hregion, hinner, by decide, front, back, hsplit, hfailed⟩

/-- The text that the failure points into has as many bytes as the end of the region, and the failure is
reported there. -/
theorem unrelated_failure_placed_behind_start :
    ¬ ['?'] <:+ ['a', 'b'] ∧
      elsewhere.parse ['a', 'b'] = .failed ⟨.ofText ['?'], "not here"⟩ ∧
      elsewhere.upToText [';'] false (.ofText ['a', 'b', ';']) =
        .failed ⟨⟨['b', ';'], ⟨1, 0, 1⟩⟩, "not here"⟩ ∧
      elsewhere.upTo (literal [';']) (.ofText ['a', 'b', ';']) =
        .failed ⟨⟨['b', ';'], ⟨1, 0, 1⟩⟩, "not here"⟩ := by
  exact ⟨by decide, by decide, by decide, by decide⟩

end ParserCombinators.Parser
