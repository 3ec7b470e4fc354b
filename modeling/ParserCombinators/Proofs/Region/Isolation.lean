import ParserCombinators.Parser.Region

/-!
# What a region is and what becomes of it

The two ways to find the end of a region compute with byte offsets and cursors.  Here each is tied to
what it looks for, said without the search.

* Up to a text, the region is what stands before its first occurrence (`Text.IsBefore`).
* Up to a match, it is the stretch of input behind which a parser matches for the first time
  (`MatchesFirst`), and the search finds the place behind it (`seek_eq_matched_iff`).

Once the region is known, both combinators do the same: they run their parser on it, go on behind what
ends it, and move a failure back (`upToText_eq`, `upTo_eq`).  `Isolates` is what the two have in common,
so that a law of regions is stated once.
-/

namespace ParserCombinators.Parser

variable {α β γ : Type}

/-! ## The first match of a parser -/

/-- Going forward from the cursor one character at a time, the parser fails until `region` has been
passed, and matches there. -/
structure MatchesFirst (limit : Parser β) (cursor : Cursor) (region : Text) (found : β)
    (rest : Cursor) : Prop where
  ahead : region <+: cursor.remaining
  matched : limit (cursor.past region) = .matched found rest
  fails_before : ∀ front, front <+: region → front ≠ region →
    ∃ failure, limit (cursor.past front) = .failed failure

variable {limit : Parser β} {cursor rest : Cursor} {region : Text} {found : β}

theorem matchesFirst_nil_iff :
    MatchesFirst limit cursor [] found rest ↔ limit cursor = .matched found rest := by
  constructor
  · exact fun h => h.matched
  · intro h
    refine ⟨List.nil_prefix, h, fun front hfront hne => ?_⟩
    exact absurd (List.prefix_nil.mp hfront) hne

theorem matchesFirst_cons_iff {c : Char} (hpeek : cursor.peek = some c) :
    MatchesFirst limit cursor (c :: region) found rest ↔
      (∃ failure, limit cursor = .failed failure) ∧
        MatchesFirst limit (cursor.past [c]) region found rest := by
  have hpast (text : Text) : cursor.past (c :: text) = (cursor.past [c]).past text :=
    Cursor.past_append cursor [c] text
  constructor
  · intro h
    have hahead := h.ahead
    rw [Cursor.remaining_of_peek hpeek, List.cons_prefix_cons] at hahead
    refine ⟨h.fails_before [] List.nil_prefix (by simp), hahead.2, ?_, fun front hfront hne => ?_⟩
    · rw [← hpast]
      exact h.matched
    · rw [← hpast]
      exact h.fails_before (c :: front) (List.cons_prefix_cons.mpr ⟨rfl, hfront⟩) (by simpa using hne)
  · rintro ⟨hhere, h⟩
    refine ⟨?_, ?_, fun front hfront hne => ?_⟩
    · rw [Cursor.remaining_of_peek hpeek]
      exact List.cons_prefix_cons.mpr ⟨rfl, h.ahead⟩
    · rw [hpast]
      exact h.matched
    · cases front with
      | nil => exact hhere
      | cons d front =>
          obtain ⟨rfl, hinner⟩ := List.cons_prefix_cons.mp hfront
          rw [hpast]
          exact h.fails_before front hinner (by simpa using hne)

theorem matchesFirst_of_seek {origin place : Cursor} {places : Nat}
    (hseek : seek limit origin places cursor = .matched (place, found) rest) :
    ∃ region, place = cursor.past region ∧ MatchesFirst limit cursor region found rest := by
  induction places generalizing cursor with
  | zero => cases hseek
  | succ places ih =>
      rcases Reply.handle_eq_matched_iff.mp hseek with
        ⟨value, behind, hlimit, heq⟩ | ⟨failure, hfailed, hmore⟩
      · cases heq
        exact ⟨[], rfl, matchesFirst_nil_iff.mpr hlimit⟩
      · cases hpeek : cursor.peek with
        | none =>
            rw [hpeek] at hmore
            cases hmore
        | some c =>
            simp only [hpeek, Cursor.stepOver_eq_past hpeek, Reply.afterMove_ok] at hmore
            obtain ⟨region, rfl, hregion⟩ := ih hmore
            refine ⟨c :: region, (Cursor.past_append cursor [c] region).symm, ?_⟩
            exact (matchesFirst_cons_iff hpeek).mpr ⟨⟨failure, hfailed⟩, hregion⟩

/-- The induction is on the region: each character of it is one more place where the limit fails. -/
theorem MatchesFirst.seek_eq_matched (h : MatchesFirst limit cursor region found rest)
    (origin : Cursor) {places : Nat} (hplaces : region.length < places) :
    seek limit origin places cursor = .matched (cursor.past region, found) rest := by
  induction region generalizing cursor places with
  | nil =>
      obtain ⟨places, rfl⟩ := Nat.exists_eq_succ_of_ne_zero (Nat.ne_zero_of_lt hplaces)
      rw [seek, matchesFirst_nil_iff.mp h]
      rfl
  | cons c region ih =>
      obtain ⟨places, rfl⟩ := Nat.exists_eq_succ_of_ne_zero (Nat.ne_zero_of_lt hplaces)
      obtain ⟨tail, htail⟩ := h.ahead
      have hpeek : cursor.peek = some c := Cursor.peek_of_remaining htail.symm
      obtain ⟨⟨failure, hfailed⟩, hregion⟩ := (matchesFirst_cons_iff hpeek).mp h
      have hpast : cursor.past (c :: region) = (cursor.past [c]).past region :=
        Cursor.past_append cursor [c] region
      rw [seek, hfailed, Reply.handle_failed, hpeek, hpast]
      simp only [Cursor.stepOver_eq_past hpeek, Reply.afterMove_ok]
      exact ih hregion (Nat.lt_of_succ_lt_succ hplaces)

/-- The search that may try all places finds the first match and nothing else. -/
theorem seek_eq_matched_iff {origin place : Cursor} :
    seek limit origin (cursor.remaining.length + 1) cursor = .matched (place, found) rest ↔
      ∃ region, place = cursor.past region ∧ MatchesFirst limit cursor region found rest := by
  constructor
  · exact matchesFirst_of_seek
  · rintro ⟨region, rfl, h⟩
    exact h.seek_eq_matched origin (Nat.lt_succ_of_le h.ahead.length_le)

/-! ## Parsers on regions -/

variable {p : Parser α} {delimiter : Text}

/-- Where the delimiter occurs, what is read is the text before it. -/
theorem upToText_eq (h : Text.IsBefore delimiter cursor.remaining region) (p : Parser α)
    (skip : Bool) :
    p.upToText delimiter skip cursor =
      (p.parse region).handle
        (fun value _ => .matched value (cursor.past (region ++ if skip then delimiter else [])))
        fun inner => .failed ⟨cursor.past (consumedAt region inner), inner.message⟩ := by
  have hregion : region <+: cursor.remaining := h.isPrefix
  have hdelimiter : delimiter <+: (cursor.past region).remaining := Cursor.isPrefix_past h.occurs
  have hfind : Text.find? delimiter cursor.remaining = some region.byteLength :=
    Text.find?_eq_some_iff.mpr ⟨region, h, rfl⟩
  simp only [upToText, hfind, Cursor.ahead_of_isPrefix hregion, Reply.afterMove_ok,
    inRegion_eq hregion, Cursor.advance_eq_past hregion]
  cases p.parse region with
  | matched value inner =>
      cases skip
      · simp
      · simp [take_of_isPrefix hdelimiter, Cursor.past_append]
  | failed inner => rfl
  | fault cause => rfl

theorem upToText_of_missing (h : ∀ front, ¬ front ++ delimiter <+: cursor.remaining)
    (p : Parser α) (skip : Bool) :
    p.upToText delimiter skip cursor = .mismatch cursor (.missingDelimiter delimiter) := by
  simp only [upToText, Text.find?_eq_none_iff.mpr h]

/-- Where the limit matches, what is read is the input before its first match. -/
theorem upTo_eq (h : MatchesFirst limit cursor region found rest) (p : Parser α) :
    p.upTo limit cursor =
      (p.parse region).handle (fun value _ => .matched (value, found) rest)
        fun inner => .failed ⟨cursor.past (consumedAt region inner), inner.message⟩ := by
  have hseek : seek limit cursor (cursor.remaining.length + 1) cursor =
      .matched (cursor.past region, found) rest :=
    seek_eq_matched_iff.mpr ⟨region, rfl, h⟩
  simp only [upTo, hseek, Reply.andThen_matched, Cursor.textUpTo_past h.ahead, Reply.afterMove_ok,
    inRegion_eq h.ahead]
  cases p.parse region with
  | matched value inner => rfl
  | failed inner => rfl
  | fault cause => rfl

/-- The parser `q` runs `p` on the text `region` that starts at the cursor: it is one of the two
combinators, and the region is the one that it looks for. -/
inductive Isolates (p : Parser α) : {γ : Type} → Parser γ → Cursor → Text → Prop
  | upToText {delimiter : Text} {cursor : Cursor} {region : Text} (skip : Bool) :
      Text.IsBefore delimiter cursor.remaining region →
        Isolates p (p.upToText delimiter skip) cursor region
  | upTo {β : Type} {limit : Parser β} {cursor : Cursor} {region : Text} {found : β}
      {rest : Cursor} :
      MatchesFirst limit cursor region found rest → Isolates p (p.upTo limit) cursor region

namespace Isolates

variable {q : Parser γ} {inner : Failure}

theorem isPrefix (h : Isolates p q cursor region) : region <+: cursor.remaining := by
  cases h with
  | upToText skip hregion => exact hregion.isPrefix
  | upTo hregion => exact hregion.ahead

/-- The reply on the region decides the reply of the whole. -/
theorem eq_handle (h : Isolates p q cursor region) :
    ∃ (f : α → γ) (rest : Cursor),
      q cursor = (p.parse region).handle (fun value _ => .matched (f value) rest)
        fun inner => .failed ⟨cursor.past (consumedAt region inner), inner.message⟩ := by
  cases h with
  | upToText skip hregion => exact ⟨fun value => value, _, upToText_eq hregion p skip⟩
  | upTo hregion => exact ⟨_, _, upTo_eq hregion p⟩

/-- A failure on the region becomes the failure of the whole. -/
theorem failed (h : Isolates p q cursor region) (hinner : p.parse region = .failed inner) :
    q cursor = .failed ⟨cursor.past (consumedAt region inner), inner.message⟩ := by
  obtain ⟨f, rest, hq⟩ := h.eq_handle
  rw [hq, hinner, Reply.handle_failed]

/-- And once the region is known there is no other reason to fail. -/
theorem eq_failed_iff (h : Isolates p q cursor region) {failure : Failure} :
    q cursor = .failed failure ↔ ∃ inner, p.parse region = .failed inner ∧
      failure = ⟨cursor.past (consumedAt region inner), inner.message⟩ := by
  constructor
  · intro hfailed
    obtain ⟨f, rest, hq⟩ := h.eq_handle
    cases hp : p.parse region with
    | matched value behind => simp [hq, hp] at hfailed
    | failed inner =>
        rw [hq, hp, Reply.handle_failed, Reply.failed.injEq] at hfailed
        exact ⟨inner, rfl, hfailed.symm⟩
    | fault cause => simp [hq, hp] at hfailed
  · rintro ⟨inner, hp, rfl⟩
    exact h.failed hp

/-- The combinator has no faults of its own. -/
theorem eq_fault_iff (h : Isolates p q cursor region) {cause : Fault} :
    q cursor = .fault cause ↔ p.parse region = .fault cause := by
  obtain ⟨f, rest, hq⟩ := h.eq_handle
  rw [hq]
  cases p.parse region <;> simp

end Isolates

end ParserCombinators.Parser
