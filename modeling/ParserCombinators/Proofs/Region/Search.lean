import ParserCombinators.Proofs.Region.Leftover

/-!
# Searching for a text and scanning for it

A region that ends at a fixed text can be found in two ways.  `upToText` searches the remaining input for
the text and computes with the byte offset of what it finds; `upTo` tries the literal at one place after the
other, up to and including the end of the input.  They find the same region.

* The literal matches for the first time behind a region exactly when the region is what stands before the
  first occurrence of the text (`matchesFirst_literal_iff`).  An occurrence that begins inside the region,
  or overlaps the one at its end, would make the literal match earlier.
* Where the text occurs, the two parsers give the same reply, up to the text in the value
  (`upTo_literal_eq_matched_iff`, `upTo_literal_eq_failed_iff`).  Where it does not, both fail where they
  started, each in words of its own (`upTo_of_missing`).
-/

namespace ParserCombinators.Parser

variable {α β : Type} {p : Parser α} {delimiter : Text} {cursor rest : Cursor} {region : Text}

/-! ## The place where a literal matches first -/

theorem matchesFirst_literal (h : Text.IsBefore delimiter cursor.remaining region) :
    MatchesFirst (literal delimiter) cursor region delimiter (cursor.past (region ++ delimiter)) where
  ahead := h.isPrefix
  matched := by
    rw [literal_of_isPrefix (Cursor.isPrefix_past h.occurs), Cursor.past_append]
  fails_before := by
    intro front hfront hne
    have hother : ¬ delimiter <+: (cursor.past front).remaining := by
      intro hstart
      have hoccurs : front ++ delimiter <+: cursor.remaining :=
        (Cursor.isPrefix_past_iff (hfront.trans h.isPrefix)).mp hstart
      have hle : region.length ≤ front.length := h.first front hoccurs
      exact hne (hfront.eq_of_length (Nat.le_antisymm hfront.length_le hle))
    obtain ⟨reason, hfailed⟩ := literal_of_other hother
    exact ⟨_, hfailed⟩

theorem isBefore_of_matchesFirst {found : Text}
    (h : MatchesFirst (literal delimiter) cursor region found rest) :
    Text.IsBefore delimiter cursor.remaining region where
  occurs := (Cursor.isPrefix_past_iff h.ahead).mp (literal_eq_matched_iff.mp h.matched).1
  first := by
    intro other hother
    refine Nat.le_of_not_lt fun hlt => ?_
    have hahead : other <+: cursor.remaining := (List.prefix_append other delimiter).trans hother
    have hshorter : other <+: region := List.prefix_of_prefix_length_le hahead h.ahead (by omega)
    -- the literal matches behind the shorter text, where it should fail
    obtain ⟨failure, hfailed⟩ := h.fails_before other hshorter (by rintro rfl; omega)
    rw [literal_of_isPrefix (Cursor.isPrefix_past hother)] at hfailed
    cases hfailed

/-- The first place where a literal matches is its first occurrence. -/
theorem matchesFirst_literal_iff {found : Text} :
    MatchesFirst (literal delimiter) cursor region found rest ↔
      Text.IsBefore delimiter cursor.remaining region ∧ found = delimiter ∧
        rest = cursor.past (region ++ delimiter) := by
  constructor
  · intro h
    obtain ⟨-, hfound, hrest⟩ := literal_eq_matched_iff.mp h.matched
    exact ⟨isBefore_of_matchesFirst h, hfound, by rw [hrest, Cursor.past_append]⟩
  · rintro ⟨h, rfl, rfl⟩
    exact matchesFirst_literal h

/-! ## Where there is no region -/

theorem seek_of_missing {limit : Parser β} (origin : Cursor) {places : Nat}
    (hplaces : cursor.remaining.length < places)
    (hlimit : ∀ front, front <+: cursor.remaining →
      ∃ failure, limit (cursor.past front) = .failed failure) :
    seek limit origin places cursor = .mismatch origin .missingLimit := by
  induction places generalizing cursor with
  | zero => omega
  | succ places ih =>
      obtain ⟨failure, hfailed⟩ : ∃ failure, limit cursor = .failed failure :=
        hlimit [] List.nil_prefix
      rw [seek, hfailed, Reply.handle_failed]
      cases hpeek : cursor.peek with
      | none => rfl
      | some c =>
          have hremaining := Cursor.remaining_of_peek hpeek
          simp only [Cursor.stepOver_eq_past hpeek, Reply.afterMove_ok]
          apply ih
          · rw [hremaining, List.length_cons] at hplaces
            omega
          · intro front hfront
            rw [← Cursor.past_append]
            apply hlimit
            rw [hremaining]
            exact List.cons_prefix_cons.mpr ⟨rfl, hfront⟩

/-- Where the limit fails at every place, the end of the region is missing. -/
theorem upTo_of_missing {limit : Parser β} (p : Parser α)
    (hlimit : ∀ front, front <+: cursor.remaining →
      ∃ failure, limit (cursor.past front) = .failed failure) :
    p.upTo limit cursor = .mismatch cursor .missingLimit := by
  rw [upTo, seek_of_missing cursor (Nat.lt_succ_self _) hlimit]
  rfl

theorem literal_fails_of_missing (h : ∀ front, ¬ front ++ delimiter <+: cursor.remaining)
    (front : Text) (hfront : front <+: cursor.remaining) :
    ∃ failure, literal delimiter (cursor.past front) = .failed failure := by
  have hother : ¬ delimiter <+: (cursor.past front).remaining :=
    fun hstart => h front ((Cursor.isPrefix_past_iff hfront).mp hstart)
  obtain ⟨reason, hfailed⟩ := literal_of_other hother
  exact ⟨_, hfailed⟩

/-! ## The replies -/

variable {value : α} {failure : Failure}

theorem upTo_literal_eq_matched_iff {found : Text} :
    p.upTo (literal delimiter) cursor = .matched (value, found) rest ↔
      found = delimiter ∧ ∃ region inner, Text.IsBefore delimiter cursor.remaining region ∧
        p.parse region = .matched value inner ∧ rest = cursor.past (region ++ delimiter) := by
  rw [upTo_eq_matched_iff]
  constructor
  · rintro ⟨region, inner, hfirst, hp⟩
    obtain ⟨hregion, hfound, hrest⟩ := matchesFirst_literal_iff.mp hfirst
    exact ⟨hfound, region, inner, hregion, hp, hrest⟩
  · rintro ⟨hfound, region, inner, hregion, hp, hrest⟩
    exact ⟨region, inner, matchesFirst_literal_iff.mpr ⟨hregion, hfound, hrest⟩, hp⟩

/-- A parser that runs `p` on what stands before a delimiter fails because `p` does, or because there is
no delimiter. -/
theorem eq_failed_iff_of_isolates {q : Parser β} {reason : Mismatch}
    (hisolates : ∀ region, Text.IsBefore delimiter cursor.remaining region →
      Isolates p q cursor region)
    (hreason : (∀ front, ¬ front ++ delimiter <+: cursor.remaining) →
      q cursor = .mismatch cursor reason) :
    q cursor = .failed failure ↔
      (∃ region inner, Text.IsBefore delimiter cursor.remaining region ∧
        p.parse region = .failed inner ∧
        failure = ⟨cursor.past (consumedAt region inner), inner.message⟩) ∨
      (∀ front, ¬ front ++ delimiter <+: cursor.remaining) ∧
        failure = ⟨cursor, reason.message⟩ := by
  constructor
  · intro hfailed
    rcases Text.find?_cases delimiter cursor.remaining with ⟨region, hregion, -⟩ | ⟨hmissing, -⟩
    · obtain ⟨inner, hp, hfailure⟩ := (hisolates region hregion).eq_failed_iff.mp hfailed
      exact .inl ⟨region, inner, hregion, hp, hfailure⟩
    · rw [hreason hmissing, Reply.mismatch, Reply.failed.injEq] at hfailed
      exact .inr ⟨hmissing, hfailed.symm⟩
  · rintro (⟨region, inner, hregion, hp, hfailure⟩ | ⟨hmissing, rfl⟩)
    · exact (hisolates region hregion).eq_failed_iff.mpr ⟨inner, hp, hfailure⟩
    · exact hreason hmissing

theorem upToText_eq_failed_iff {skip : Bool} :
    p.upToText delimiter skip cursor = .failed failure ↔
      (∃ region inner, Text.IsBefore delimiter cursor.remaining region ∧
        p.parse region = .failed inner ∧
        failure = ⟨cursor.past (consumedAt region inner), inner.message⟩) ∨
      (∀ front, ¬ front ++ delimiter <+: cursor.remaining) ∧
        failure = ⟨cursor, (Mismatch.missingDelimiter delimiter).message⟩ :=
  eq_failed_iff_of_isolates (fun _ hregion => .upToText skip hregion)
    fun hmissing => upToText_of_missing hmissing p skip

theorem upTo_literal_eq_failed_iff :
    p.upTo (literal delimiter) cursor = .failed failure ↔
      (∃ region inner, Text.IsBefore delimiter cursor.remaining region ∧
        p.parse region = .failed inner ∧
        failure = ⟨cursor.past (consumedAt region inner), inner.message⟩) ∨
      (∀ front, ¬ front ++ delimiter <+: cursor.remaining) ∧
        failure = ⟨cursor, Mismatch.missingLimit.message⟩ :=
  eq_failed_iff_of_isolates (fun _ hregion => .upTo (matchesFirst_literal hregion))
    fun hmissing => upTo_of_missing p (literal_fails_of_missing hmissing)

/-- One message starts with a quote, the other with a letter. -/
theorem message_missingDelimiter_ne (delimiter : Text) :
    (Mismatch.missingDelimiter delimiter).message ≠ Mismatch.missingLimit.message := by
  intro h
  have hquote : ("'" ++ String.ofList delimiter ++ "' not found").toList.head? = some '\'' := by
    simp [String.toList_append]
  have hletter : Mismatch.missingLimit.message.toList.head? = some 'l' := rfl
  rw [← h] at hletter
  exact absurd (hquote.symm.trans hletter) (by decide)

/-- Searching for a text and scanning for it match alike and stop behind the same occurrence; without
skipping, the search stops in front of it.  They fail together, in the same way when the parser fails on
the region, and each with its own message where they started when the text does not occur. -/
theorem text_search_agrees_with_literal_scan (p : Parser α) (delimiter : Text) (cursor : Cursor) :
    (∀ value rest, p.upToText delimiter true cursor = .matched value rest ↔
      p.upTo (literal delimiter) cursor = .matched (value, delimiter) rest) ∧
    (∀ value found rest, p.upTo (literal delimiter) cursor = .matched (value, found) rest →
      found = delimiter ∧ ∃ region, Text.IsBefore delimiter cursor.remaining region ∧
        rest = cursor.past (region ++ delimiter) ∧
        p.upToText delimiter false cursor = .matched value (cursor.past region)) ∧
    ∀ skip,
      ((∃ failure, p.upToText delimiter skip cursor = .failed failure) ↔
        ∃ failure, p.upTo (literal delimiter) cursor = .failed failure) ∧
      (∀ region inner, Text.IsBefore delimiter cursor.remaining region →
        p.parse region = .failed inner →
        ∃ failure, p.upToText delimiter skip cursor = .failed failure ∧
          p.upTo (literal delimiter) cursor = .failed failure) ∧
      ((∀ front, ¬ front ++ delimiter <+: cursor.remaining) →
        ∃ searched scanned, p.upToText delimiter skip cursor = .failed ⟨cursor, searched⟩ ∧
          p.upTo (literal delimiter) cursor = .failed ⟨cursor, scanned⟩ ∧ searched ≠ scanned) ∧
      ∀ searched scanned, p.upToText delimiter skip cursor = .failed searched →
        p.upTo (literal delimiter) cursor = .failed scanned → searched ≠ scanned →
        ∀ front, ¬ front ++ delimiter <+: cursor.remaining := by
  refine ⟨fun value rest => ?_, fun value found rest hmatch => ?_, fun skip => ⟨?_, ?_, ?_, ?_⟩⟩
  · rw [upToText_eq_matched_iff, upTo_literal_eq_matched_iff, if_pos rfl]
    exact (and_iff_right rfl).symm
  · obtain ⟨hfound, region, inner, hregion, hp, hrest⟩ := upTo_literal_eq_matched_iff.mp hmatch
    refine ⟨hfound, region, hregion, hrest, ?_⟩
    exact upToText_eq_matched_iff.mpr ⟨region, inner, hregion, hp, by simp⟩
  · simp only [upToText_eq_failed_iff, upTo_literal_eq_failed_iff]
    constructor
    · rintro ⟨failure, hinner | ⟨hmissing, -⟩⟩
      · exact ⟨failure, .inl hinner⟩
      · exact ⟨_, .inr ⟨hmissing, rfl⟩⟩
    · rintro ⟨failure, hinner | ⟨hmissing, -⟩⟩
      · exact ⟨failure, .inl hinner⟩
      · exact ⟨_, .inr ⟨hmissing, rfl⟩⟩
  · intro region inner hregion hp
    exact ⟨_, upToText_eq_failed_iff.mpr (.inl ⟨region, inner, hregion, hp, rfl⟩),
      upTo_literal_eq_failed_iff.mpr (.inl ⟨region, inner, hregion, hp, rfl⟩)⟩
  · intro hmissing
    exact ⟨_, _, upToText_eq_failed_iff.mpr (.inr ⟨hmissing, rfl⟩),
      upTo_literal_eq_failed_iff.mpr (.inr ⟨hmissing, rfl⟩), message_missingDelimiter_ne delimiter⟩
  · intro searched scanned hsearched hscanned hne
    rcases upToText_eq_failed_iff.mp hsearched with ⟨region, inner, hregion, hp, rfl⟩ | ⟨hmissing, -⟩
    · -- the region is there, so the scan reports the very same failure
      have hsame := upTo_literal_eq_failed_iff.mpr (.inl ⟨region, inner, hregion, hp, rfl⟩)
      rw [hsame, Reply.failed.injEq] at hscanned
      exact absurd hscanned hne
    · exact hmissing

/-- The first of two dashes is no part of the arrow.  The region is an accented letter and that dash; it
starts with a character, and it does not start with a number. -/
theorem text_search_agrees_with_literal_scan_of_arrow :
    anyChar.upToText ['-', '>'] true ⟨['é', '-', '-', '>', 'x'], ⟨5, 1, 2⟩⟩ =
        .matched 'é' ⟨['x'], ⟨9, 1, 6⟩⟩ ∧
      anyChar.upTo (literal ['-', '>']) ⟨['é', '-', '-', '>', 'x'], ⟨5, 1, 2⟩⟩ =
        .matched ('é', ['-', '>']) ⟨['x'], ⟨9, 1, 6⟩⟩ ∧
      Text.IsBefore ['-', '>'] ['é', '-', '-', '>', 'x'] ['é', '-'] ∧
      (∃ inner, integer.parse ['é', '-'] = .failed inner) ∧
      (∃ failure,
        integer.upToText ['-', '>'] false ⟨['é', '-', '-', '>', 'x'], ⟨5, 1, 2⟩⟩ = .failed failure ∧
        integer.upTo (literal ['-', '>']) ⟨['é', '-', '-', '>', 'x'], ⟨5, 1, 2⟩⟩ =
          .failed failure) := by
  have hsearch : anyChar.upToText ['-', '>'] true ⟨['é', '-', '-', '>', 'x'], ⟨5, 1, 2⟩⟩ =
      .matched 'é' ⟨['x'], ⟨9, 1, 6⟩⟩ := by decide
  have hscan := ((text_search_agrees_with_literal_scan anyChar ['-', '>']
    ⟨['é', '-', '-', '>', 'x'], ⟨5, 1, 2⟩⟩).1 'é' _).mp hsearch
  have harrow : Text.IsBefore ['-', '>'] ['-', '>', 'x'] [] := Text.isBefore_nil (by decide)
  have hregion : Text.IsBefore ['-', '>'] ['é', '-', '-', '>', 'x'] ['é', '-'] :=
    (harrow.cons (by decide)).cons (by decide)
  have hinner : ∃ inner, integer.parse ['é', '-'] = .failed inner := ⟨_, rfl⟩
  obtain ⟨inner, hfailed⟩ := hinner
  have hboth := ((text_search_agrees_with_literal_scan integer ['-', '>']
    ⟨['é', '-', '-', '>', 'x'], ⟨5, 1, 2⟩⟩).2.2 false).2.1 _ inner hregion hfailed
  exact ⟨hsearch, hscan, hregion, ⟨inner, hfailed⟩, hboth⟩

end ParserCombinators.Parser
