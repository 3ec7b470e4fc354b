import ParserCombinators.Proofs.Expression.Termination

/-!
# Lists with separators without counting rounds

The loop over separators and items carries a bound on its rounds.  `itemsRound` is one round of it,
with what comes behind the round as a parameter, and everything here is first said of a round.

* A round that matches either ends the list or reads a separator and an item that consume something
  together (`itemsRound_eq_matched_cases`).
* What comes behind a round is therefore read with less input than the round started with
  (`itemsRound_congr`).  So the bound is never reached: two bounds that both exceed the length of
  the input give the same reply (`moreItems_eq_of_lt`), and the loop obeys the equation that one
  would write down for it without a bound (`itemsAfter_eq`).
* For the same reason a list is read to an end when its item and its separator are
  (`sepBy1_ne_diverged`), and it asks its item at no place with more input than it started with
  (`sepBy1_congr`).

All that is known about the item and the separator is that they consume what they match; either of
them may match without consuming anything.
-/

namespace ParserCombinators.Parser

variable {α β : Type} {item : Parser α} {separator : Parser β} {trailing : Bool}

/-! ## One round -/

/-- Reads a separator with an item behind it and goes on with `next`, or ends the list. -/
def itemsRound (item : Parser α) (separator : Parser β) (trailing : Bool)
    (next : Parser (List α)) : Parser (List α) := fun cursor =>
  (separator cursor).handle
    (fun _ behind =>
      (item behind).handle
        (fun value rest =>
          if stalled cursor rest then .matched [] cursor else (next rest).map (value :: ·))
        (fun _ => .matched [] (if trailing then behind else cursor)))
    (fun _ => .matched [] cursor)

theorem moreItems_succ (item : Parser α) (separator : Parser β) (trailing : Bool) (rounds : Nat)
    (cursor : Cursor) :
    moreItems item separator trailing (rounds + 1) cursor =
      itemsRound item separator trailing (moreItems item separator trailing rounds) cursor := rfl

/-- A round ends the list, at most behind a separator, or it reads one more item. -/
theorem itemsRound_eq_matched_cases {next : Parser (List α)} {cursor rest : Cursor}
    {values : List α}
    (hmatch : itemsRound item separator trailing next cursor = .matched values rest) :
    (values = [] ∧
      (rest = cursor ∨ trailing = true ∧ ∃ mark, separator cursor = .matched mark rest)) ∨
    ∃ mark behind value middle more, separator cursor = .matched mark behind ∧
      item behind = .matched value middle ∧ ¬ stalled cursor middle ∧
      next middle = .matched more rest ∧ values = value :: more := by
  rcases Reply.handle_eq_matched_iff.mp hmatch with
    ⟨mark, behind, hseparator, hmatch⟩ | ⟨failure, -, hend⟩
  · rcases Reply.handle_eq_matched_iff.mp hmatch with
      ⟨value, middle, hitem, hmatch⟩ | ⟨failure, -, hend⟩
    · by_cases hstall : stalled cursor middle
      · rw [if_pos hstall] at hmatch
        cases hmatch
        exact .inl ⟨rfl, .inl rfl⟩
      · rw [if_neg hstall] at hmatch
        obtain ⟨more, hmore, rfl⟩ := Reply.map_eq_matched_iff.mp hmatch
        exact .inr ⟨mark, behind, value, middle, more, hseparator, hitem, hstall, hmore, rfl⟩
    · cases trailing
      · cases hend
        exact .inl ⟨rfl, .inl rfl⟩
      · cases hend
        exact .inl ⟨rfl, .inr ⟨rfl, mark, hseparator⟩⟩
  · cases hend
    exact .inl ⟨rfl, .inl rfl⟩

/-- A failure ends the list and is forgotten. -/
theorem itemsRound_ne_failed {next : Parser (List α)} {cursor : Cursor} {failure : Failure}
    (hnext : ∀ rest, next rest ≠ .failed failure) :
    itemsRound item separator trailing next cursor ≠ .failed failure := by
  unfold itemsRound
  cases separator cursor with
  | failed first => exact fun h => by cases h
  | fault cause => exact fun h => by cases h
  | matched mark behind =>
      rw [Reply.handle_matched]
      cases item behind with
      | failed first => exact fun h => by cases h
      | fault cause => exact fun h => by cases h
      | matched value rest =>
          rw [Reply.handle_matched]
          split
          · exact fun h => by cases h
          · exact fun h => hnext rest (Reply.map_eq_failed_iff.mp h)

/-- A round asks its item where no more input remains, and what comes behind it where less does. -/
theorem itemsRound_congr {other : Parser α} (hitem : Conserving item)
    (hseparator : Conserving separator) {first second : Parser (List α)} {cursor : Cursor}
    (hagree : ∀ place, place.remaining.length ≤ cursor.remaining.length →
      item place = other place)
    (hnext : ∀ rest, rest.remaining.length < cursor.remaining.length → first rest = second rest) :
    itemsRound item separator trailing first cursor =
      itemsRound other separator trailing second cursor := by
  apply Reply.handle_congr
  intro mark behind hmark
  have hbehind : cursor.Reaches behind := hseparator _ _ _ hmark
  rw [← hagree behind hbehind.length_le]
  apply Reply.handle_congr
  intro value rest hvalue
  by_cases hstall : stalled cursor rest
  · rw [if_pos hstall, if_pos hstall]
  · have hrest : cursor.Reaches rest := hbehind.trans (hitem _ _ _ hvalue)
    rw [if_neg hstall, if_neg hstall, hnext rest (length_lt_of_not_stalled hrest hstall)]

theorem itemsRound_ne_diverged (hitem : Conserving item) (hseparator : Conserving separator)
    {next : Parser (List α)} {cursor : Cursor}
    (hseparates : separator cursor ≠ .fault .diverged)
    (hreads : ∀ place, cursor.Reaches place → item place ≠ .fault .diverged)
    (hnext : ∀ rest, cursor.Reaches rest → rest.remaining.length < cursor.remaining.length →
      next rest ≠ .fault .diverged) :
    itemsRound item separator trailing next cursor ≠ .fault .diverged := by
  apply Reply.handle_ne_diverged hseparates
  · intro mark behind hmark
    have hbehind : cursor.Reaches behind := hseparator _ _ _ hmark
    apply Reply.handle_ne_diverged (hreads behind hbehind)
    · intro value rest hvalue
      have hrest : cursor.Reaches rest := hbehind.trans (hitem _ _ _ hvalue)
      split
      · simp
      · next hstall =>
          exact Reply.map_ne_diverged (hnext rest hrest (length_lt_of_not_stalled hrest hstall)) _
    · intro failure _
      simp
  · intro failure _
    simp

/-! ## The loop -/

theorem moreItems_eq_of_lt (hitem : Conserving item) (hseparator : Conserving separator)
    {rounds larger : Nat} {cursor : Cursor} (hrounds : cursor.remaining.length < rounds)
    (hlarger : cursor.remaining.length < larger) :
    moreItems item separator trailing larger cursor =
      moreItems item separator trailing rounds cursor := by
  induction rounds generalizing larger cursor with
  | zero => omega
  | succ rounds ih =>
      obtain ⟨larger, rfl⟩ := Nat.exists_eq_succ_of_ne_zero (Nat.ne_zero_of_lt hlarger)
      rw [moreItems_succ, moreItems_succ]
      apply itemsRound_congr hitem hseparator (fun _ _ => rfl)
      intro rest hlt
      exact ih (by omega) (by omega)

theorem moreItems_ne_failed (item : Parser α) (separator : Parser β) (trailing : Bool)
    (rounds : Nat) (cursor : Cursor) (failure : Failure) :
    moreItems item separator trailing rounds cursor ≠ .failed failure := by
  induction rounds generalizing cursor with
  | zero => exact fun h => by cases h
  | succ rounds ih => exact itemsRound_ne_failed ih

theorem moreItems_congr {other : Parser α} (hitem : Conserving item)
    (hseparator : Conserving separator) {rounds : Nat} {cursor : Cursor}
    (hagree : ∀ place, place.remaining.length ≤ cursor.remaining.length →
      item place = other place) :
    moreItems item separator trailing rounds cursor =
      moreItems other separator trailing rounds cursor := by
  induction rounds generalizing cursor with
  | zero => rfl
  | succ rounds ih =>
      rw [moreItems_succ, moreItems_succ]
      apply itemsRound_congr hitem hseparator hagree
      intro rest hlt
      exact ih fun place hplace => hagree place (by omega)

/-- Reads separators with an item behind each for as long as they come. -/
def itemsAfter (item : Parser α) (separator : Parser β) (trailing : Bool) : Parser (List α) :=
  fun cursor => moreItems item separator trailing (cursor.remaining.length + 1) cursor

/-- The loop without its bound. -/
theorem itemsAfter_eq (hitem : Conserving item) (hseparator : Conserving separator)
    (cursor : Cursor) :
    itemsAfter item separator trailing cursor =
      itemsRound item separator trailing (itemsAfter item separator trailing) cursor := by
  rw [itemsAfter, moreItems_succ]
  apply itemsRound_congr hitem hseparator (fun _ _ => rfl)
  intro rest hlt
  exact moreItems_eq_of_lt hitem hseparator (by omega) hlt

theorem itemsAfter_ne_diverged (hitem : Conserving item) (hseparator : Conserving separator)
    {cursor : Cursor}
    (hseparates : ∀ place, cursor.Reaches place → separator place ≠ .fault .diverged)
    (hreads : ∀ place, cursor.Reaches place → item place ≠ .fault .diverged) :
    itemsAfter item separator trailing cursor ≠ .fault .diverged := by
  induction hlength : cursor.remaining.length using Nat.strongRecOn generalizing cursor with
  | ind length ih =>
      subst hlength
      rw [itemsAfter_eq hitem hseparator]
      apply itemsRound_ne_diverged hitem hseparator (hseparates cursor (.refl cursor)) hreads
      intro rest hrest hlt
      apply ih _ hlt _ _ rfl
      · exact fun place hplace => hseparates place (hrest.trans hplace)
      · exact fun place hplace => hreads place (hrest.trans hplace)

/-! ## Lists -/

theorem sepBy1_eq (item : Parser α) (separator : Parser β) (trailing : Bool) (cursor : Cursor) :
    item.sepBy1 separator trailing cursor =
      (item cursor).andThen fun value rest =>
        (itemsAfter item separator trailing rest).map (value :: ·) := rfl

/-- Only the first item can fail a list. -/
theorem sepBy1_eq_failed_iff {cursor : Cursor} {failure : Failure} :
    item.sepBy1 separator trailing cursor = .failed failure ↔ item cursor = .failed failure := by
  rw [sepBy1_eq]
  cases item cursor with
  | matched value rest =>
      simp [Reply.map_eq_failed_iff, itemsAfter, moreItems_ne_failed]
  | failed first => simp
  | fault cause => simp

/-- A list is read to an end when its item and separator are, at all places that it reaches. -/
theorem sepBy1_ne_diverged (hitem : Conserving item) (hseparator : Conserving separator)
    {cursor : Cursor}
    (hseparates : ∀ place, cursor.Reaches place → separator place ≠ .fault .diverged)
    (hreads : ∀ place, cursor.Reaches place → item place ≠ .fault .diverged) :
    item.sepBy1 separator trailing cursor ≠ .fault .diverged := by
  rw [sepBy1_eq]
  apply Reply.andThen_ne_diverged (hreads cursor (.refl cursor))
  intro value rest hvalue
  have hrest : cursor.Reaches rest := hitem _ _ _ hvalue
  apply Reply.map_ne_diverged
  apply itemsAfter_ne_diverged hitem hseparator
  · exact fun place hplace => hseparates place (hrest.trans hplace)
  · exact fun place hplace => hreads place (hrest.trans hplace)

/-- Two items that agree where no more input remains give the same list. -/
theorem sepBy1_congr {other : Parser α} (hitem : Conserving item)
    (hseparator : Conserving separator) {cursor : Cursor}
    (hagree : ∀ place, place.remaining.length ≤ cursor.remaining.length →
      item place = other place) :
    item.sepBy1 separator trailing cursor = other.sepBy1 separator trailing cursor := by
  rw [sepBy1_eq, sepBy1_eq, ← hagree cursor (Nat.le_refl _)]
  apply Reply.andThen_congr
  intro value rest hvalue
  have hle : rest.remaining.length ≤ cursor.remaining.length := (hitem _ _ _ hvalue).length_le
  have hmore : itemsAfter item separator trailing rest = itemsAfter other separator trailing rest :=
    moreItems_congr hitem hseparator fun place hplace => hagree place (by omega)
  rw [hmore]

end ParserCombinators.Parser
