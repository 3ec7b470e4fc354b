import ParserCombinators.Proofs.Repetition.Items
import ParserCombinators.Proofs.Repetition.Values

/-!
# Lists with separators in simpler combinators

A list with separators can be written without a loop of its own.

* It is an item, and then a repetition of separator and item that may be missing (`sepBy1_eq_pair_many1`).
  The two loops part where a round consumes nothing: the repetition keeps the value of that round, the list
  drops it.  So the separator and the item have to consume something together.
* With a trailing separator it is the list without one, and then a separator that may be missing
  (`sepBy1_eq_keepLeft_optional`).  This needs no progress.  The loop ends in front of a separator that was
  given back, where the separator is simply read again; or in front of none; or where a round consumed
  nothing, and there the separator consumes nothing either.

Both are shown of the loop behind the first item, by induction on the remaining input.
-/

namespace ParserCombinators.Parser

variable {α β : Type} {item : Parser α} {separator : Parser β} {cursor rest : Cursor}
  {values : List α}

/-! ## A repetition behind the first item -/

theorem conserving_keepRight (hseparator : Conserving separator) (hitem : Conserving item) :
    Conserving (separator.keepRight item) :=
  ((Contract.keptBy_conservation hseparator).keepRight
    (Contract.keptBy_conservation hitem)).conserving

/-- A separator that consumes something does so together with any item. -/
theorem consuming_keepRight (hseparator : Consuming separator) (hitem : Conserving item) :
    Consuming (separator.keepRight item) := by
  intro cursor value rest hmatch
  rw [keepRight_eq] at hmatch
  obtain ⟨mark, behind, hmark, hvalue⟩ := Reply.andThen_eq_matched_iff.mp hmatch
  calc rest.remaining.length
      ≤ behind.remaining.length := (hitem _ _ _ hvalue).length_le
    _ < cursor.remaining.length := hseparator _ _ _ hmark

theorem itemsAfter_eq_many1 (hitem : Conserving item) (hseparator : Conserving separator)
    (hconsuming : Consuming (separator.keepRight item)) (cursor : Cursor) :
    itemsAfter item separator false cursor =
      ((separator.keepRight item).many1 cursor).recover fun _ => .matched [] cursor := by
  induction hlength : cursor.remaining.length using Nat.strongRecOn generalizing cursor with
  | ind length ih =>
      subst hlength
      rw [itemsAfter_eq hitem hseparator, many1_eq (conserving_keepRight hseparator hitem),
        itemsRound, keepRight_eq]
      cases hmark : separator cursor with
      | failed failure => rfl
      | fault cause => rfl
      | matched mark behind =>
          rw [Reply.handle_matched, Reply.andThen_matched]
          cases hvalue : item behind with
          | failed failure => rfl
          | fault cause => rfl
          | matched value rest =>
              have hboth : separator.keepRight item cursor = .matched value rest := by
                rw [keepRight_eq, hmark, Reply.andThen_matched, hvalue]
              have hlt := hconsuming _ _ _ hboth
              have hreach : cursor.Reaches rest :=
                (hseparator _ _ _ hmark).trans (hitem _ _ _ hvalue)
              have hgoes : ¬ stalled cursor rest := not_stalled_of_length_lt hreach hlt
              rw [Reply.handle_matched, Reply.andThen_matched, if_neg hgoes, if_neg hgoes,
                ih _ hlt rest rfl]
              -- behind a first match neither side can fail any more
              cases (separator.keepRight item).many1 rest <;> rfl

/-- A list is an item and then, if there are any, separators with an item behind each. -/
theorem sepBy1_eq_pair_many1 (hitem : Conserving item) (hseparator : Conserving separator)
    (hconsuming : Consuming (separator.keepRight item)) :
    item.sepBy1 separator false =
      (item.pair (separator.keepRight item).many1.optional).map fun parts =>
        parts.1 :: parts.2.getD [] := by
  funext cursor
  rw [sepBy1_eq, Parser.map, pair, Reply.map_andThen]
  apply Reply.andThen_congr
  intro value rest _
  rw [itemsAfter_eq_many1 hitem hseparator hconsuming, optional]
  cases (separator.keepRight item).many1 rest <;> rfl

/-! ## A trailing separator -/

theorem itemsAfter_eq_optional (hitem : Conserving item) (hseparator : Conserving separator)
    (cursor : Cursor) :
    itemsAfter item separator true cursor =
      (itemsAfter item separator false cursor).andThen fun values middle =>
        (separator.optional middle).map fun _ => values := by
  induction hlength : cursor.remaining.length using Nat.strongRecOn generalizing cursor with
  | ind length ih =>
      subst hlength
      rw [itemsAfter_eq hitem hseparator, itemsAfter_eq hitem hseparator, itemsRound, itemsRound]
      cases hmark : separator cursor with
      | failed failure => simp [optional, hmark]
      | fault cause => rfl
      | matched mark behind =>
          rw [Reply.handle_matched, Reply.handle_matched]
          cases hvalue : item behind with
          | failed failure => simp [optional, hmark]
          | fault cause => rfl
          | matched value rest =>
              have hbehind : cursor.Reaches behind := hseparator _ _ _ hmark
              have hrest : behind.Reaches rest := hitem _ _ _ hvalue
              rw [Reply.handle_matched, Reply.handle_matched]
              by_cases hstall : stalled cursor rest
              · -- the separator lies between two places that are the same
                have hback : rest = cursor := eq_of_stalled (hbehind.trans hrest) hstall
                have hsame : behind = cursor :=
                  hbehind.eq_of_length_le (hback ▸ hrest.length_le)
                rw [if_pos hstall, if_pos hstall]
                simp [optional, hmark, hsame]
              · have hlt := length_lt_of_not_stalled (hbehind.trans hrest) hstall
                rw [if_neg hstall, if_neg hstall, ih _ hlt rest rfl]
                simp only [Reply.map_andThen, Reply.andThen_map, Reply.map_map]

/-- A list with a trailing separator is a list and then, if there is one, a separator. -/
theorem sepBy1_eq_keepLeft_optional (hitem : Conserving item) (hseparator : Conserving separator) :
    item.sepBy1 separator true = (item.sepBy1 separator false).keepLeft separator.optional := by
  funext cursor
  rw [keepLeft_eq, sepBy1_eq, sepBy1_eq, Reply.andThen_andThen]
  apply Reply.andThen_congr
  intro value rest _
  rw [itemsAfter_eq_optional hitem hseparator]
  simp only [Reply.map_andThen, Reply.andThen_map, Reply.map_map]

/-- The loop has already asked for a separator where the list ends, and was not left without an
answer. -/
theorem separator_answers_behind (hitem : Conserving item) (hseparator : Conserving separator)
    (hmatch : itemsAfter item separator false cursor = .matched values rest) (cause : Fault) :
    separator rest ≠ .fault cause := by
  induction values generalizing cursor with
  | nil =>
      rw [itemsAfter_eq hitem hseparator] at hmatch
      rcases itemsRound_eq_matched_cases hmatch with
        ⟨-, rfl | ⟨htrailing, -⟩⟩ | ⟨mark, behind, value, middle, more, -, -, -, -, hvalues⟩
      · intro hfault
        rw [itemsRound, hfault, Reply.handle_fault] at hmatch
        cases hmatch
      · cases htrailing
      · cases hvalues
  | cons value values ih =>
      rw [itemsAfter_eq hitem hseparator] at hmatch
      rcases itemsRound_eq_matched_cases hmatch with
        ⟨hvalues, -⟩ | ⟨mark, behind, first, middle, more, -, -, -, hmore, hvalues⟩
      · cases hvalues
      · cases hvalues
        exact ih hmore

/-- With the flag set, the same items are read, and then one more separator where there is one. -/
theorem sepBy1_trailing_eq_matched_iff (hitem : Conserving item) (hseparator : Conserving separator) :
    item.sepBy1 separator true cursor = .matched values rest ↔
      ∃ middle, item.sepBy1 separator false cursor = .matched values middle ∧
        ((∃ mark, separator middle = .matched mark rest) ∨
          (∃ failure, separator middle = .failed failure) ∧ rest = middle) := by
  rw [sepBy1_eq_keepLeft_optional hitem hseparator, keepLeft_eq]
  constructor
  · intro hmatch
    obtain ⟨found, middle, hlist, hmatch⟩ := Reply.andThen_eq_matched_iff.mp hmatch
    obtain ⟨mark?, hoptional, rfl⟩ := Reply.map_eq_matched_iff.mp hmatch
    refine ⟨middle, hlist, ?_⟩
    rcases Reply.handle_eq_matched_iff.mp hoptional with
      ⟨mark, behind, hmark, heq⟩ | ⟨failure, hfailed, heq⟩
    · cases heq
      exact .inl ⟨mark, hmark⟩
    · cases heq
      exact .inr ⟨⟨failure, hfailed⟩, rfl⟩
  · rintro ⟨middle, hlist, ⟨mark, hmark⟩ | ⟨⟨failure, hfailed⟩, rfl⟩⟩
    · simp [hlist, optional, hmark]
    · simp [hlist, optional, hfailed]

/-- So the flag does not change whether there is a list. -/
theorem exists_sepBy1_trailing (hitem : Conserving item) (hseparator : Conserving separator)
    (hmatch : item.sepBy1 separator false cursor = .matched values rest) :
    ∃ place, item.sepBy1 separator true cursor = .matched values place := by
  have hanswers : ∀ cause, separator rest ≠ .fault cause := by
    rw [sepBy1_eq] at hmatch
    obtain ⟨value, behind, -, hmore⟩ := Reply.andThen_eq_matched_iff.mp hmatch
    obtain ⟨more, hlist, -⟩ := Reply.map_eq_matched_iff.mp hmore
    exact separator_answers_behind hitem hseparator hlist
  cases hmark : separator rest with
  | matched mark place =>
      exact ⟨place, (sepBy1_trailing_eq_matched_iff hitem hseparator).mpr
        ⟨rest, hmatch, .inl ⟨mark, hmark⟩⟩⟩
  | failed failure =>
      exact ⟨rest, (sepBy1_trailing_eq_matched_iff hitem hseparator).mpr
        ⟨rest, hmatch, .inr ⟨⟨failure, hmark⟩, rfl⟩⟩⟩
  | fault cause => exact absurd hmark (hanswers cause)

/-- Lists with separators are what their definition in simpler combinators says, and a trailing separator
is a matter of where a list ends, not of what is in it. -/
theorem sepBy1_in_simpler_combinators (hitem : Conserving item) (hseparator : Conserving separator) :
    (Consuming (separator.keepRight item) →
      item.sepBy1 separator false =
        (item.pair (separator.keepRight item).many1.optional).map fun parts =>
          parts.1 :: parts.2.getD []) ∧
    item.sepBy1 separator true = (item.sepBy1 separator false).keepLeft separator.optional ∧
    ∀ cursor,
      (∀ failure, item.sepBy1 separator true cursor = .failed failure ↔
        item.sepBy1 separator false cursor = .failed failure) ∧
      (∀ values, (∃ rest, item.sepBy1 separator true cursor = .matched values rest) ↔
        ∃ rest, item.sepBy1 separator false cursor = .matched values rest) ∧
      ∀ values rest middle, item.sepBy1 separator true cursor = .matched values rest →
        item.sepBy1 separator false cursor = .matched values middle →
        rest = middle ∨ ∃ mark, separator middle = .matched mark rest := by
  refine ⟨sepBy1_eq_pair_many1 hitem hseparator, sepBy1_eq_keepLeft_optional hitem hseparator,
    fun cursor => ⟨fun failure => ?_, fun values => ⟨?_, ?_⟩, ?_⟩⟩
  · rw [sepBy1_eq_failed_iff, sepBy1_eq_failed_iff]
  · rintro ⟨rest, hmatch⟩
    obtain ⟨middle, hlist, -⟩ := (sepBy1_trailing_eq_matched_iff hitem hseparator).mp hmatch
    exact ⟨middle, hlist⟩
  · rintro ⟨rest, hmatch⟩
    exact exists_sepBy1_trailing hitem hseparator hmatch
  · intro values rest middle htrailing hlist
    obtain ⟨place, hplace, hends⟩ := (sepBy1_trailing_eq_matched_iff hitem hseparator).mp htrailing
    rw [hlist, Reply.matched.injEq] at hplace
    obtain ⟨-, rfl⟩ := hplace
    rcases hends with hmark | ⟨-, hrest⟩
    · exact .inr hmark
    · exact .inl hrest

/-- Numbers that may be missing, with a comma behind each but the last.  The comma consumes something, the
number need not.  In front of the letter, the last comma ends the list or starts a missing number. -/
theorem sepBy1_in_simpler_combinators_of_missing :
    Conserving integer.optional ∧ Conserving (char ',') ∧
      Consuming ((char ',').keepRight integer.optional) ∧
      ((integer.optional.pair ((char ',').keepRight integer.optional).many1.optional).map fun parts =>
          parts.1 :: parts.2.getD []) ⟨['1', ',', ',', 'x'], ⟨5, 1, 2⟩⟩ =
        .matched [some 1, none, none] ⟨['x'], ⟨8, 1, 5⟩⟩ ∧
      (integer.sepBy1 (char ',') false).keepLeft (char ',').optional ⟨['1', ',', ',', 'x'], ⟨5, 1, 2⟩⟩ =
        .matched [1] ⟨[',', 'x'], ⟨7, 1, 4⟩⟩ := by
  have hinteger : Conserving integer := Contract.conservation.keptBy_integer.conserving
  have hitem : Conserving integer.optional :=
    Contract.conservation.keptBy_integer.optional.conserving
  have hcomma : Conserving (char ',') := (Contract.conservation.keptBy_char ',').conserving
  have hconsuming : Consuming ((char ',').keepRight integer.optional) :=
    consuming_keepRight (consuming_char ',') hitem
  refine ⟨hitem, hcomma, hconsuming, ?_, ?_⟩
  · rw [← (sepBy1_in_simpler_combinators hitem hcomma).1 hconsuming]
    decide
  · rw [← (sepBy1_in_simpler_combinators hinteger hcomma).2.1]
    decide

end ParserCombinators.Parser
