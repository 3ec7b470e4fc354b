import ParserCombinators.Proofs.Expression.Termination

/-!
# Repetition is greedy

A repetition runs its parser again and again, each time where the last match ended, until the parser fails
or a match consumes nothing.  The loop that does this carries a bound on its rounds.

* **Without the bound.**  A round that goes on has consumed something, so the bound is never reached
  (`moreValues_eq_of_lt`), and what follows a first match is a repetition itself, or nothing where the
  parser fails (`many1_eq`).
* **Seen from outside.**  `afterMatches` are the places that the parser gets to by itself, and `IsLast` says
  of a match that the repetition ends with it.  `ReadsInARow` collects the values up to the first such match,
  without mention of the loop, and these are the values of the repetition (`exists_readsInARow`, by
  induction on the values).
* **Faults.**  A repetition has no faults of its own: it faults exactly where one of these places is a fault
  of the parser (`many1_eq_fault_iff`).
-/

namespace ParserCombinators.Parser

variable {α : Type} {p : Parser α} {cursor rest : Cursor} {value : α} {values : List α}

/-! ## The loop without its bound -/

theorem moreValues_succ (p : Parser α) (rounds : Nat) (cursor : Cursor) :
    moreValues p (rounds + 1) cursor =
      (p cursor).handle
        (fun value rest =>
          if stalled cursor rest then .matched [value] rest
          else (moreValues p rounds rest).map (value :: ·))
        (fun _ => .matched [] cursor) := rfl

theorem moreValues_eq_of_lt (hp : Conserving p) {rounds larger : Nat}
    (hrounds : cursor.remaining.length < rounds) (hlarger : cursor.remaining.length < larger) :
    moreValues p larger cursor = moreValues p rounds cursor := by
  induction rounds generalizing larger cursor with
  | zero => omega
  | succ rounds ih =>
      obtain ⟨larger, rfl⟩ := Nat.exists_eq_succ_of_ne_zero (Nat.ne_zero_of_lt hlarger)
      rw [moreValues_succ, moreValues_succ]
      apply Reply.handle_congr
      intro value rest hmatch
      by_cases hstall : stalled cursor rest
      · rw [if_pos hstall, if_pos hstall]
      · have hlt := length_lt_of_not_stalled (hp _ _ _ hmatch) hstall
        rw [if_neg hstall, if_neg hstall, ih (by omega) (by omega)]

/-- A failure ends the loop and is forgotten. -/
theorem moreValues_ne_failed (p : Parser α) (rounds : Nat) (cursor : Cursor) (failure : Failure) :
    moreValues p rounds cursor ≠ .failed failure := by
  induction rounds generalizing cursor with
  | zero => exact fun h => by cases h
  | succ rounds ih =>
      rw [moreValues_succ]
      cases p cursor with
      | matched value rest =>
          rw [Reply.handle_matched]
          split
          · exact fun h => by cases h
          · exact fun h => ih rest (Reply.map_eq_failed_iff.mp h)
      | failed first => exact fun h => by cases h
      | fault cause => exact fun h => by cases h

/-- Only the first match can fail a repetition. -/
theorem many1_eq_failed_iff {failure : Failure} :
    p.many1 cursor = .failed failure ↔ p cursor = .failed failure := by
  unfold many1 many1Within
  cases p cursor with
  | matched value rest =>
      rw [Reply.andThen_matched]
      split
      · simp
      · simp [Reply.map_eq_failed_iff, moreValues_ne_failed]
  | failed first => simp
  | fault cause => simp

theorem moreValues_eq (hp : Conserving p) {rounds : Nat} (hrounds : cursor.remaining.length < rounds) :
    moreValues p rounds cursor = (p.many1 cursor).recover fun _ => .matched [] cursor := by
  obtain ⟨rounds, rfl⟩ := Nat.exists_eq_succ_of_ne_zero (Nat.ne_zero_of_lt hrounds)
  rw [moreValues_succ, many1, many1Within]
  cases hfirst : p cursor with
  | matched value rest =>
      rw [Reply.handle_matched, Reply.andThen_matched]
      by_cases hstall : stalled cursor rest
      · rw [if_pos hstall, if_pos hstall, Reply.recover_matched]
      · have hlt := length_lt_of_not_stalled (hp _ _ _ hfirst) hstall
        rw [if_neg hstall, if_neg hstall, moreValues_eq_of_lt hp (Nat.lt_succ_self _) (by omega)]
        cases hmore : moreValues p (rest.remaining.length + 1) rest with
        | matched more behind => rfl
        | failed failure => exact absurd hmore (moreValues_ne_failed _ _ _ _)
        | fault cause => rfl
  | failed failure => rfl
  | fault cause => rfl

/-- What follows the first match is a repetition again, or nothing where there is none. -/
theorem many1_eq (hp : Conserving p) (cursor : Cursor) :
    p.many1 cursor =
      (p cursor).andThen fun value rest =>
        if stalled cursor rest then .matched [value] rest
        else ((p.many1 rest).recover fun _ => .matched [] rest).map (value :: ·) := by
  apply Reply.andThen_congr
  intro value rest _
  rw [moreValues_eq hp (Nat.lt_succ_self _)]

/-! ## Matches in a row -/

/-- The place behind a match.  Where nothing matches it is the place itself. -/
def afterMatch (p : Parser α) (cursor : Cursor) : Cursor :=
  match p cursor with
  | .matched _ rest => rest
  | _ => cursor

/-- The place behind the given number of matches in a row. -/
def afterMatches (p : Parser α) (cursor : Cursor) : Nat → Cursor
  | 0 => cursor
  | i + 1 => p.afterMatch (p.afterMatches cursor i)

/-- The match behind `i` others consumes nothing, or none comes behind it. -/
def IsLast (p : Parser α) (cursor : Cursor) (i : Nat) : Prop :=
  stalled (p.afterMatches cursor i) (p.afterMatches cursor (i + 1)) ∨
    ∃ failure, p (p.afterMatches cursor (i + 1)) = .failed failure

theorem afterMatch_of_matched (h : p cursor = .matched value rest) : p.afterMatch cursor = rest := by
  rw [afterMatch, h]

theorem afterMatches_succ_left (p : Parser α) (cursor : Cursor) (i : Nat) :
    p.afterMatches cursor (i + 1) = p.afterMatches (p.afterMatch cursor) i := by
  induction i with
  | zero => rfl
  | succ i ih => rw [afterMatches, ih, afterMatches]

theorem afterMatches_succ_of_matched (h : p cursor = .matched value rest) (i : Nat) :
    p.afterMatches cursor (i + 1) = p.afterMatches rest i := by
  rw [afterMatches_succ_left, afterMatch_of_matched h]

theorem isLast_succ_iff (h : p cursor = .matched value rest) {i : Nat} :
    p.IsLast cursor (i + 1) ↔ p.IsLast rest i := by
  rw [IsLast, IsLast, afterMatches_succ_of_matched h, afterMatches_succ_of_matched h]

theorem isLast_zero_iff (h : p cursor = .matched value rest) :
    p.IsLast cursor 0 ↔ stalled cursor rest ∨ ∃ failure, p rest = .failed failure := by
  rw [IsLast, afterMatches_succ_of_matched h, afterMatches, afterMatches]

/-- The values of the matches in a row up to the first one that is a last one, which comes behind `k`
others. -/
structure ReadsInARow (p : Parser α) (cursor : Cursor) (k : Nat) (values : List α) : Prop where
  last : p.IsLast cursor k
  first : ∀ i < k, ¬ p.IsLast cursor i
  length_eq : values.length = k + 1
  matched : ∀ i (hi : i < values.length),
    p (p.afterMatches cursor i) = .matched values[i] (p.afterMatches cursor (i + 1))

namespace ReadsInARow

theorem single (hmatch : p cursor = .matched value rest) (hlast : p.IsLast cursor 0) :
    ReadsInARow p cursor 0 [value] where
  last := hlast
  first i hi := absurd hi (Nat.not_lt_zero i)
  length_eq := rfl
  matched i hi := by
    obtain rfl : i = 0 := by simpa using hi
    rw [afterMatches_succ_of_matched hmatch]
    exact hmatch

theorem cons {k : Nat} (hmatch : p cursor = .matched value rest) (hgoes : ¬ p.IsLast cursor 0)
    (h : ReadsInARow p rest k values) : ReadsInARow p cursor (k + 1) (value :: values) where
  last := (isLast_succ_iff hmatch).mpr h.last
  first i hi := by
    cases i with
    | zero => exact hgoes
    | succ i => exact mt (isLast_succ_iff hmatch).mp (h.first i (Nat.lt_of_succ_lt_succ hi))
  length_eq := by rw [List.length_cons, h.length_eq]
  matched i hi := by
    rw [afterMatches_succ_of_matched hmatch]
    cases i with
    | zero => exact hmatch
    | succ i =>
        rw [afterMatches_succ_of_matched hmatch]
        exact h.matched i (Nat.lt_of_succ_lt_succ hi)

variable {k : Nat}

/-- Every match but the last consumes something. -/
theorem length_lt (h : ReadsInARow p cursor k values) (hp : Conserving p) {i : Nat} (hi : i < k) :
    (p.afterMatches cursor (i + 1)).remaining.length < (p.afterMatches cursor i).remaining.length := by
  have hmatch := h.matched i (by rw [h.length_eq]; omega)
  exact length_lt_of_not_stalled (hp _ _ _ hmatch) fun hstall => h.first i hi (.inl hstall)

/-- So there are no more of them than characters, and one. -/
theorem le_length (h : ReadsInARow p cursor k values) (hp : Conserving p) :
    k ≤ cursor.remaining.length := by
  have hconsumed : ∀ i ≤ k,
      (p.afterMatches cursor i).remaining.length + i ≤ cursor.remaining.length := by
    intro i
    induction i with
    | zero => exact fun _ => Nat.le_refl _
    | succ i ih =>
        intro hi
        have hlt := h.length_lt hp (Nat.lt_of_succ_le hi)
        have hle := ih (by omega)
        omega
  have hall := hconsumed k (Nat.le_refl k)
  omega

end ReadsInARow

/-! ## What a repetition reads -/

/-- A repetition ends with its first match, or stands behind it again. -/
theorem many1_eq_matched_cases (hp : Conserving p) (hmatch : p.many1 cursor = .matched values rest) :
    (∃ value, p cursor = .matched value rest ∧ p.IsLast cursor 0 ∧ values = [value]) ∨
    ∃ value middle more, p cursor = .matched value middle ∧ ¬ p.IsLast cursor 0 ∧
      p.many1 middle = .matched more rest ∧ values = value :: more := by
  rw [many1_eq hp] at hmatch
  obtain ⟨value, middle, hfirst, hmore⟩ := Reply.andThen_eq_matched_iff.mp hmatch
  by_cases hstall : stalled cursor middle
  · rw [if_pos hstall] at hmore
    cases hmore
    exact .inl ⟨value, hfirst, (isLast_zero_iff hfirst).mpr (.inl hstall), rfl⟩
  · rw [if_neg hstall] at hmore
    obtain ⟨more, hrecovered, rfl⟩ := Reply.map_eq_matched_iff.mp hmore
    rcases Reply.handle_eq_matched_iff.mp hrecovered with
      ⟨others, place, hothers, heq⟩ | ⟨failure, hfailed, heq⟩
    · cases heq
      refine .inr ⟨value, middle, more, hfirst, ?_, hothers, rfl⟩
      rw [isLast_zero_iff hfirst]
      rintro (hstops | ⟨failure, hfailed⟩)
      · exact hstall hstops
      · rw [many1_eq_failed_iff.mpr hfailed] at hothers
        cases hothers
    · cases heq
      have hfails := many1_eq_failed_iff.mp hfailed
      exact .inl ⟨value, hfirst, (isLast_zero_iff hfirst).mpr (.inr ⟨failure, hfails⟩), rfl⟩

theorem exists_readsInARow (hp : Conserving p) (hmatch : p.many1 cursor = .matched values rest) :
    ∃ k, ReadsInARow p cursor k values ∧ rest = p.afterMatches cursor (k + 1) := by
  induction values generalizing cursor with
  | nil =>
      rcases many1_eq_matched_cases hp hmatch with
        ⟨value, -, -, hvalues⟩ | ⟨value, middle, more, -, -, -, hvalues⟩
      · cases hvalues
      · cases hvalues
  | cons value values ih =>
      rcases many1_eq_matched_cases hp hmatch with
        ⟨first, hfirst, hlast, hvalues⟩ | ⟨first, middle, more, hfirst, hgoes, hothers, hvalues⟩
      · cases hvalues
        exact ⟨0, .single hfirst hlast, (afterMatches_succ_of_matched hfirst 0).symm⟩
      · cases hvalues
        obtain ⟨k, hrow, hrest⟩ := ih hothers
        exact ⟨k + 1, .cons hfirst hgoes hrow, by rw [afterMatches_succ_of_matched hfirst, hrest]⟩

/-! ## Faults -/

variable {cause : Fault}

theorem exists_fault_of_many1 (hp : Conserving p) (hfault : p.many1 cursor = .fault cause) :
    ∃ i, p (p.afterMatches cursor i) = .fault cause := by
  induction hlength : cursor.remaining.length using Nat.strongRecOn generalizing cursor with
  | ind length ih =>
      subst hlength
      rw [many1_eq hp] at hfault
      rcases Reply.handle_eq_fault_iff.mp hfault with
        hfirst | ⟨value, middle, hfirst, hmore⟩ | ⟨failure, -, hmore⟩
      · exact ⟨0, hfirst⟩
      · split at hmore
        · cases hmore
        · next hstall =>
            have hlt := length_lt_of_not_stalled (hp _ _ _ hfirst) hstall
            rcases Reply.handle_eq_fault_iff.mp (Reply.map_eq_fault_iff.mp hmore) with
              hothers | ⟨more, place, -, heq⟩ | ⟨failure, -, heq⟩
            · obtain ⟨i, hi⟩ := ih _ hlt hothers rfl
              exact ⟨i + 1, by rw [afterMatches_succ_of_matched hfirst, hi]⟩
            · cases heq
            · cases heq
      · cases hmore

/-- The induction is on the number of matches before the fault.  Where the parser does not get on, the
place does not change, and the fault is already there. -/
theorem many1_of_fault (hp : Conserving p) {i : Nat}
    (hfault : p (p.afterMatches cursor i) = .fault cause) : p.many1 cursor = .fault cause := by
  induction i generalizing cursor with
  | zero => rw [many1, many1Within, show p cursor = .fault cause from hfault, Reply.andThen_fault]
  | succ i ih =>
      rw [afterMatches_succ_left] at hfault
      have hbehind := ih hfault
      cases hfirst : p cursor with
      | matched value middle =>
          rw [afterMatch_of_matched hfirst] at hbehind
          by_cases hstall : stalled cursor middle
          · rwa [eq_of_stalled (hp _ _ _ hfirst) hstall] at hbehind
          · rw [many1_eq hp, hfirst, Reply.andThen_matched, if_neg hstall, hbehind,
              Reply.recover_fault, Reply.map_fault]
      | failed failure => rwa [afterMatch, hfirst] at hbehind
      | fault other => rwa [afterMatch, hfirst] at hbehind

theorem many1_eq_fault_iff (hp : Conserving p) :
    p.many1 cursor = .fault cause ↔ ∃ i, p (p.afterMatches cursor i) = .fault cause :=
  ⟨exists_fault_of_many1 hp, fun ⟨_, hfault⟩ => many1_of_fault hp hfault⟩

theorem terminating_many1 (hp : Conserving p) (hreads : Terminating p) : Terminating p.many1 := by
  intro cursor hdiverged
  obtain ⟨i, hi⟩ := exists_fault_of_many1 hp hdiverged
  exact hreads _ hi

/-- A repetition ends, and fails exactly when its parser fails where it starts.  Otherwise it reads what
the parser reads in a row, up to the first match that consumes nothing or has none behind it; the other
matches consume something, so that there are at most one more of them than characters. -/
theorem many1_is_greedy_repetition (hp : Conserving p) (hreads : Terminating p) (cursor : Cursor) :
    p.many1 cursor ≠ .fault .diverged ∧
    (∀ failure, p.many1 cursor = .failed failure ↔ p cursor = .failed failure) ∧
    (∀ cause, p.many1 cursor = .fault cause ↔ ∃ i, p (p.afterMatches cursor i) = .fault cause) ∧
    ((∀ failure, p cursor ≠ .failed failure) →
      (∀ i cause, p (p.afterMatches cursor i) ≠ .fault cause) →
      ∃ k values, p.many1 cursor = .matched values (p.afterMatches cursor (k + 1)) ∧
        ReadsInARow p cursor k values ∧
        (∀ i < k, (p.afterMatches cursor (i + 1)).remaining.length <
          (p.afterMatches cursor i).remaining.length) ∧
        values.length ≤ cursor.remaining.length + 1) := by
  refine ⟨terminating_many1 hp hreads cursor, fun failure => many1_eq_failed_iff,
    fun cause => many1_eq_fault_iff hp, fun hmatches hanswers => ?_⟩
  cases hreply : p.many1 cursor with
  | matched values rest =>
      obtain ⟨k, hrow, rfl⟩ := exists_readsInARow hp hreply
      have hle := hrow.le_length hp
      refine ⟨k, values, rfl, hrow, fun i hi => hrow.length_lt hp hi, ?_⟩
      rw [hrow.length_eq]
      omega
  | failed failure => exact absurd (many1_eq_failed_iff.mp hreply) (hmatches failure)
  | fault cause =>
      obtain ⟨i, hi⟩ := (many1_eq_fault_iff hp).mp hreply
      exact absurd hi (hanswers i cause)

/-- All blanks are read by the first match, and the second one consumes nothing. -/
theorem many1_is_greedy_repetition_of_blanks :
    Conserving skipSpaces ∧ Terminating skipSpaces ∧
      skipSpaces.many1 ⟨[' ', '\n', 'x'], ⟨5, 1, 2⟩⟩ =
        .matched [[' ', '\n'], []] ⟨['x'], ⟨7, 2, 0⟩⟩ ∧
      ∃ k, ReadsInARow skipSpaces ⟨[' ', '\n', 'x'], ⟨5, 1, 2⟩⟩ k [[' ', '\n'], []] := by
  have hconserving : Conserving skipSpaces := (Contract.conservation.keptBy_scan _).conserving
  have hanswers : ∀ place cause, skipSpaces place ≠ .fault cause := by
    intro place cause hfault
    rw [skipSpaces, scan_eq rfl] at hfault
    cases hfault
  have hterminating : Terminating skipSpaces := fun place => hanswers place .diverged
  have hblanks : skipSpaces.many1 ⟨[' ', '\n', 'x'], ⟨5, 1, 2⟩⟩ =
      .matched [[' ', '\n'], []] ⟨['x'], ⟨7, 2, 0⟩⟩ := by decide
  have hmatches : ∀ failure, skipSpaces ⟨[' ', '\n', 'x'], ⟨5, 1, 2⟩⟩ ≠ .failed failure := by
    intro failure hfailed
    rw [skipSpaces, scan_eq rfl] at hfailed
    cases hfailed
  obtain ⟨k, values, hmatch, hrow, -⟩ :=
    (many1_is_greedy_repetition hconserving hterminating ⟨[' ', '\n', 'x'], ⟨5, 1, 2⟩⟩).2.2.2
      hmatches fun i cause => hanswers _ cause
  rw [hblanks, Reply.matched.injEq] at hmatch
  obtain ⟨rfl, -⟩ := hmatch
  exact ⟨hconserving, hterminating, hblanks, k, hrow⟩

end ParserCombinators.Parser
