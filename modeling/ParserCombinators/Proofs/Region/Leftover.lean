import ParserCombinators.Parser.Complete
import ParserCombinators.Parser.Number
import ParserCombinators.Proofs.Region.Isolation

/-!
# What is left over of a region

A region is left behind as a whole.  Where its parser stopped is forgotten, so a parser that stops early
matches, and the end of the region goes unread.

* A match needs a region, and a match of the parser at its start; what is left over does not count
  (`upToText_eq_matched_iff`, `upTo_eq_matched_iff`).
* With the end of input behind it, the parser has to accept the region as a whole text
  (`exists_parse_keepLeft_endOfInput_iff`).  This is how a grammar asks that a region be read
  completely.
* A failure on the region is a failure in any case (`Isolates.failed`).
-/

namespace ParserCombinators.Parser

variable {α β : Type} {p : Parser α} {cursor rest : Cursor} {value : α}

theorem upToText_eq_matched_iff {delimiter : Text} {skip : Bool} :
    p.upToText delimiter skip cursor = .matched value rest ↔
      ∃ region inner, Text.IsBefore delimiter cursor.remaining region ∧
        p.parse region = .matched value inner ∧
        rest = cursor.past (region ++ if skip then delimiter else []) := by
  constructor
  · intro h
    rcases Text.find?_cases delimiter cursor.remaining with ⟨region, hregion, -⟩ | ⟨hmissing, -⟩
    · rw [upToText_eq hregion] at h
      rcases Reply.handle_eq_matched_iff.mp h with ⟨found, inner, hp, heq⟩ | ⟨failure, -, heq⟩
      · cases heq
        exact ⟨region, inner, hregion, hp, rfl⟩
      · cases heq
    · rw [upToText_of_missing hmissing] at h
      cases h
  · rintro ⟨region, inner, hregion, hp, rfl⟩
    rw [upToText_eq hregion, hp, Reply.handle_matched]

theorem upTo_eq_matched_iff {limit : Parser β} {found : β} :
    p.upTo limit cursor = .matched (value, found) rest ↔
      ∃ region inner, MatchesFirst limit cursor region found rest ∧
        p.parse region = .matched value inner := by
  constructor
  · intro h
    obtain ⟨⟨place, matched⟩, behind, hseek, -⟩ := Reply.andThen_eq_matched_iff.mp h
    obtain ⟨region, -, hregion⟩ := matchesFirst_of_seek hseek
    rw [upTo_eq hregion] at h
    rcases Reply.handle_eq_matched_iff.mp h with ⟨read, inner, hp, heq⟩ | ⟨failure, -, heq⟩
    · cases heq
      exact ⟨region, inner, hregion, hp⟩
    · cases heq
  · rintro ⟨region, inner, hregion, hp⟩
    rw [upTo_eq hregion, hp, Reply.handle_matched]

/-- To match a text with the end of input behind it is to accept it as a whole. -/
theorem exists_parse_keepLeft_endOfInput_iff {text : Text} :
    (∃ inner, (p.keepLeft .endOfInput).parse text = .matched value inner) ↔
      p.parseComplete text = .accepted value := by
  rw [parseComplete_eq_accepted_iff]
  constructor
  · rintro ⟨inner, h⟩
    rw [parse, keepLeft_eq] at h
    obtain ⟨first, middle, hp, hend⟩ := Reply.andThen_eq_matched_iff.mp h
    obtain ⟨last, hplace, rfl⟩ := Reply.map_eq_matched_iff.mp hend
    obtain ⟨hnil, -⟩ := endOfInput_eq_matched_iff.mp hplace
    exact ⟨middle, hp, hnil⟩
  · rintro ⟨inner, hp, hnil⟩
    have hend : endOfInput inner = .matched () inner := endOfInput_eq_matched_iff.mpr ⟨hnil, rfl⟩
    refine ⟨inner, ?_⟩
    rw [parse, keepLeft_eq, show p (.ofText text) = .matched value inner from hp,
      Reply.andThen_matched, hend, Reply.map_matched]

/-- Whether a region is matched depends on how its parser starts on it, and what is left over of it is
dropped.  It is read completely when the end of input is put behind the parser. -/
theorem region_matched_at_its_start (p : Parser α) (cursor rest : Cursor) (value : α) :
    (∀ (delimiter : Text) (skip : Bool),
      (p.upToText delimiter skip cursor = .matched value rest ↔
        ∃ region inner, Text.IsBefore delimiter cursor.remaining region ∧
          p.parse region = .matched value inner ∧
          rest = cursor.past (region ++ if skip then delimiter else [])) ∧
      ((p.keepLeft .endOfInput).upToText delimiter skip cursor = .matched value rest ↔
        ∃ region, Text.IsBefore delimiter cursor.remaining region ∧
          p.parseComplete region = .accepted value ∧
          rest = cursor.past (region ++ if skip then delimiter else []))) ∧
    (∀ (β : Type) (limit : Parser β) (found : β),
      (p.upTo limit cursor = .matched (value, found) rest ↔
        ∃ region inner, MatchesFirst limit cursor region found rest ∧
          p.parse region = .matched value inner) ∧
      ((p.keepLeft .endOfInput).upTo limit cursor = .matched (value, found) rest ↔
        ∃ region, MatchesFirst limit cursor region found rest ∧
          p.parseComplete region = .accepted value)) ∧
    ∀ (γ : Type) (q : Parser γ) (region : Text) (inner : Failure), Isolates p q cursor region →
      p.parse region = .failed inner → ∃ failure, q cursor = .failed failure := by
  refine ⟨fun delimiter skip => ⟨upToText_eq_matched_iff, ?_⟩,
    fun β limit found => ⟨upTo_eq_matched_iff, ?_⟩, fun γ q region inner hregion hinner => ?_⟩
  · simp only [upToText_eq_matched_iff, ← exists_parse_keepLeft_endOfInput_iff]
    constructor
    · rintro ⟨region, inner, hregion, hp, hrest⟩
      exact ⟨region, hregion, ⟨inner, hp⟩, hrest⟩
    · rintro ⟨region, hregion, ⟨inner, hp⟩, hrest⟩
      exact ⟨region, inner, hregion, hp, hrest⟩
  · simp only [upTo_eq_matched_iff, ← exists_parse_keepLeft_endOfInput_iff]
    constructor
    · rintro ⟨region, inner, hregion, hp⟩
      exact ⟨region, hregion, inner, hp⟩
    · rintro ⟨region, hregion, inner, hp⟩
      exact ⟨region, inner, hregion, hp⟩
  · exact ⟨_, hregion.failed hinner⟩

/-- Before the semicolon there is no number, so the region fails. -/
theorem region_of_letter_fails :
    Isolates integer (integer.upToText [';'] true) (.ofText ['x', ';']) ['x'] ∧
      (∃ inner, integer.parse ['x'] = .failed inner) ∧
      ∃ failure, integer.upToText [';'] true (.ofText ['x', ';']) = .failed failure := by
  have hbehind : Text.IsBefore [';'] [';'] [] := Text.isBefore_nil (by decide)
  have hregion : Isolates integer (integer.upToText [';'] true) (.ofText ['x', ';']) ['x'] :=
    .upToText true (hbehind.cons (by decide))
  have hinner : ∃ inner, integer.parse ['x'] = .failed inner := ⟨_, rfl⟩
  obtain ⟨inner, hfailed⟩ := hinner
  exact ⟨hregion, ⟨inner, hfailed⟩,
    (region_matched_at_its_start integer _ (.ofText []) 0).2.2 _ _ _ inner hregion hfailed⟩

/-- Of the region `1x` the number is read, and the `x` is dropped with the delimiter. -/
theorem rest_of_region_dropped :
    Text.IsBefore [';'] ['1', 'x', ';'] ['1', 'x'] ∧
      integer.parse ['1', 'x'] = .matched 1 ⟨['x'], ⟨1, 0, 1⟩⟩ ∧
      integer.upToText [';'] true (.ofText ['1', 'x', ';']) = .matched 1 ⟨[], ⟨3, 0, 3⟩⟩ ∧
      integer.upTo (literal [';']) (.ofText ['1', 'x', ';']) =
        .matched (1, [';']) ⟨[], ⟨3, 0, 3⟩⟩ := by
  have hbehind : Text.IsBefore [';'] [';'] [] := Text.isBefore_nil (by decide)
  exact ⟨(hbehind.cons (by decide)).cons (by decide), by decide, by decide, by decide⟩

end ParserCombinators.Parser
