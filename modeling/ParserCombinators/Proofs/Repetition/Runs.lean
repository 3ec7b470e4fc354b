import ParserCombinators.Proofs.Repetition.Values

/-!
# Three ways to read a run

The characters of a class that come next can be read by three loops.  They can be counted first and then
taken in one piece (`takeWhile1`), read one by one and collected (`many1`), or scanned with a window that
grows while its last character is of the class (`scan`).  The three stop in front of the same character.

* **One by one.**  A run is its first character and the run behind it (`takeWhile1_eq_andThen`), which is
  also how the repetition goes on; each character moves the cursor, so no round stalls.  The induction is
  on the remaining input.  Where there is no first character, the run and the single character fail in the
  same way.
* **By a window.**  The scan accepts an empty run and cannot fail.  It reads what the run reads if there is
  one, and nothing otherwise (`takeWhile1_recover`).
-/

namespace ParserCombinators.Parser

variable {α : Type}

/-- Without a character of the class there is nothing to read, and the cursor stays where it is. -/
theorem takeWhile1_recover (wanted : Char → Bool) (cursor : Cursor) :
    ((takeWhile1 wanted cursor).recover fun _ => .matched [] cursor) =
      .matched (cursor.remaining.takeWhile wanted)
        (cursor.past (cursor.remaining.takeWhile wanted)) := by
  by_cases hrun : cursor.remaining.takeWhile wanted = []
  · obtain ⟨reason, hother⟩ := takeWhile1_of_nil hrun
    rw [hother, hrun]
    rfl
  · rw [takeWhile1_eq hrun, Reply.recover_matched]

/-! ## One character after the other -/

theorem takeWhile1_eq_andThen (wanted : Char → Bool) (cursor : Cursor) :
    takeWhile1 wanted cursor =
      (satisfy wanted cursor).andThen fun first behind =>
        .matched (first :: behind.remaining.takeWhile wanted)
          (behind.past (behind.remaining.takeWhile wanted)) := by
  cases hpeek : cursor.peek with
  | none =>
      have hend : cursor.remaining = [] := List.head?_eq_none_iff.mp hpeek
      simp [takeWhile1, satisfy, hpeek, hend, spanBytes, Reply.mismatch]
  | some first =>
      have hremaining := Cursor.remaining_of_peek hpeek
      by_cases hwanted : wanted first = true
      · have hrun : cursor.remaining.takeWhile wanted =
            first :: (cursor.past [first]).remaining.takeWhile wanted := by
          rw [hremaining, List.takeWhile_cons_of_pos hwanted]
        rw [takeWhile1_eq (by rw [hrun]; exact List.cons_ne_nil _ _), hrun,
          satisfy_of_peek hpeek hwanted, Reply.andThen_matched]
        exact congrArg _ (Cursor.past_append cursor [first] _)
      · rw [satisfy_of_other hpeek (Bool.eq_false_iff.mpr hwanted)]
        simp [takeWhile1, hremaining, hpeek, spanBytes, hwanted, Reply.mismatch]

theorem conserving_satisfy (wanted : Char → Bool) : Conserving (satisfy wanted) :=
  (Contract.conservation.keptBy_satisfy wanted).conserving

theorem many1_satisfy (wanted : Char → Bool) (cursor : Cursor) :
    (satisfy wanted).many1 cursor = takeWhile1 wanted cursor := by
  induction hlength : cursor.remaining.length using Nat.strongRecOn generalizing cursor with
  | ind length ih =>
      subst hlength
      rw [many1_eq (conserving_satisfy wanted), takeWhile1_eq_andThen]
      apply Reply.andThen_congr
      intro first behind hfirst
      obtain ⟨hpeek, -, rfl⟩ := satisfy_eq_matched_iff.mp hfirst
      have hlt : (cursor.past [first]).remaining.length < cursor.remaining.length := by
        rw [Cursor.remaining_of_peek hpeek, List.length_cons]
        exact Nat.lt_succ_self _
      have hgoes : ¬ stalled cursor (cursor.past [first]) :=
        not_stalled_of_length_lt (conserving_satisfy wanted _ _ _ hfirst) hlt
      rw [if_neg hgoes, ih _ hlt _ rfl, takeWhile1_recover, Reply.map_matched]

/-! ## By a window -/

/-- A missing value is a value given in advance. -/
theorem optional_getD (p : Parser α) (absent : α) (cursor : Cursor) :
    (p.optional.map fun found => found.getD absent) cursor =
      (p cursor).recover fun _ => .matched absent cursor := by
  rw [Parser.map, optional]
  cases p cursor <;> rfl

theorem scan_endsIn_eq_optional (wanted : Char → Bool) :
    scan (endsIn wanted) = (takeWhile1 wanted).optional.map fun found => found.getD [] := by
  funext cursor
  rw [optional_getD, takeWhile1_recover, scan_endsIn]

/-- A run of one class can be read in one piece, as single characters put together, or by a window that
may stay empty when the run may be missing.  So blanks that may be missing are blanks made optional. -/
theorem runs_are_read_alike (wanted : Char → Bool) :
    takeWhile1 wanted = (satisfy wanted).many1.asText ∧
      scan (endsIn wanted) = (takeWhile1 wanted).optional.map (fun found => found.getD []) ∧
      skipSpaces = spaces.optional.map fun found => found.getD [] := by
  refine ⟨?_, scan_endsIn_eq_optional wanted, scan_endsIn_eq_optional CharClass.isBlank⟩
  funext cursor
  rw [asText, Parser.map, many1_satisfy, Reply.map_id']

/-- The loops stop in front of the same letter, and fail alike where it comes first. -/
example :
    (satisfy Char.isDigit).many1.asText ⟨['4', '2', 'é'], ⟨5, 1, 2⟩⟩ =
        .matched ['4', '2'] ⟨['é'], ⟨7, 1, 4⟩⟩ ∧
      (satisfy Char.isDigit).many1.asText ⟨['é', '4'], ⟨5, 1, 2⟩⟩ =
        .mismatch ⟨['é', '4'], ⟨5, 1, 2⟩⟩ (.rejectedChar 'é') := by
  decide

end ParserCombinators.Parser
