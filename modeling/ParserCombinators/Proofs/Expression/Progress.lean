import ParserCombinators.Proofs.Contract.Combinators

/-!
# Reading expressions without counting rounds

The loops over operators carry a bound on their rounds.  This file removes it: two bounds that both
exceed the length of the input give the same reply (`moreTokens_eq_of_lt`, `extend_eq_of_lt`), so the
loops obey the equations that one would write down for them without a bound, `tokensAfter_eq` and
`grow_eq`.  All that is known about the operand is that it consumes what it matches.

A round that consumes something leaves a shorter input.  A round that consumes nothing comes back to
the cursor where it started, meets the same operator again and will do so forever: no bound is enough
(`moreTokens_of_stall`, `extend_of_stall`).  So to run out of a bound means that the loop does not end.

A round consumes something when the symbol of the operator or the operand behind it does.  That is
`Advancing`.
-/

namespace ParserCombinators

variable {α : Type}

/-- A match never ends where it started. -/
def Consuming (p : Parser α) : Prop :=
  ∀ cursor value rest, p cursor = .matched value rest →
    rest.remaining.length < cursor.remaining.length

/-- An infix operator of the table and an operand behind it consume something together. -/
structure Advancing (operand : Parser α) (operators : List Operator) : Prop where
  conserving : Conserving operand
  advances : ∀ found ∈ operators, found.fixity = .infixOp →
    found.symbol ≠ [] ∨ Consuming operand

namespace Advancing

variable {operand : Parser α} {operators : List Operator}

theorem of_symbols (hoperand : Conserving operand)
    (hsymbols : ∀ found ∈ operators, found.fixity = .infixOp → found.symbol ≠ []) :
    Advancing operand operators :=
  ⟨hoperand, fun found hfound hinfix => .inl (hsymbols found hfound hinfix)⟩

theorem leaf (h : Advancing operand operators) : Advancing operand.leaf operators := by
  constructor
  · intro cursor tree rest hmatch
    obtain ⟨value, hvalue, -⟩ := Reply.map_eq_matched_iff.mp hmatch
    exact h.conserving cursor value rest hvalue
  · intro found hfound hinfix
    apply (h.advances found hfound hinfix).imp_right
    intro hconsuming cursor tree rest hmatch
    obtain ⟨value, hvalue, -⟩ := Reply.map_eq_matched_iff.mp hmatch
    exact hconsuming cursor value rest hvalue

/-- Behind an operator and its operand there is less input than before the operator. -/
theorem length_lt (h : Advancing operand operators) {accepts : Operator → Bool}
    {cursor rest : Cursor} {found : Operator} {value : α}
    (hnext : Operator.next? accepts operators cursor.remaining = some found)
    (hmatch : operand (cursor.past found.symbol) = .matched value rest) :
    rest.remaining.length < cursor.remaining.length := by
  obtain ⟨hmem, hinfix, hsymbol⟩ :=
    Operator.first?_eq_some (Operator.next?_eq_some_iff.mp hnext).1
  have hle : rest.remaining.length ≤ (cursor.past found.symbol).remaining.length :=
    (h.conserving _ _ _ hmatch).length_le
  have hpast : (cursor.past found.symbol).remaining.length + found.symbol.length =
      cursor.remaining.length := by
    rw [Cursor.remaining_of_isPrefix hsymbol, List.length_append, Nat.add_comm]
  rcases h.advances found hmem hinfix with hne | hconsuming
  · have := List.length_pos_iff.mpr hne
    omega
  · have := hconsuming _ _ _ hmatch
    omega

/-- And so there is behind whatever goes on from the operand. -/
theorem length_lt_of_andThen (h : Advancing operand operators) {accepts : Operator → Bool}
    {cursor rest : Cursor} {found : Operator} {β : Type} {next : α → Parser β} {result : β}
    (hnext : Operator.next? accepts operators cursor.remaining = some found)
    (hconserving : ∀ value, Conserving (next value))
    (hmatch : (operand (cursor.past found.symbol)).andThen next = .matched result rest) :
    rest.remaining.length < cursor.remaining.length := by
  obtain ⟨value, inside, hvalue, hresult⟩ := Reply.andThen_eq_matched_iff.mp hmatch
  calc rest.remaining.length
      ≤ inside.remaining.length := (hconserving value inside result rest hresult).length_le
    _ < cursor.remaining.length := h.length_lt hnext hvalue

end Advancing

namespace Parser

/-! ## The flat loop -/

variable {operators : List Operator}

theorem moreTokens_of_stall {operand : Parser α} {accepts : Operator → Bool} {cursor : Cursor}
    {found : Operator} {value : α}
    (hnext : Operator.next? accepts operators cursor.remaining = some found)
    (hstall : operand (cursor.past found.symbol) = .matched value cursor) (rounds : Nat) :
    moreTokens accepts operand operators rounds cursor = .fault .diverged := by
  induction rounds with
  | zero => rfl
  | succ rounds ih =>
      rw [moreTokens_succ]
      simp only [hnext, hstall, Reply.andThen_matched, ih, Reply.map_fault]

theorem moreTokens_eq_of_lt {operand : Parser α} (hoperand : Conserving operand)
    {accepts : Operator → Bool} {rounds larger : Nat} {cursor : Cursor}
    (hrounds : cursor.remaining.length < rounds) (hlarger : cursor.remaining.length < larger) :
    moreTokens accepts operand operators larger cursor =
      moreTokens accepts operand operators rounds cursor := by
  induction rounds generalizing larger cursor with
  | zero => omega
  | succ rounds ih =>
      obtain ⟨larger, rfl⟩ := Nat.exists_eq_succ_of_ne_zero (Nat.ne_zero_of_lt hlarger)
      rw [moreTokens_succ, moreTokens_succ]
      cases hnext : Operator.next? accepts operators cursor.remaining with
      | none => rfl
      | some found =>
          apply Reply.andThen_congr
          intro value rest hmatch
          have hreach : cursor.Reaches rest :=
            (Contract.reaches_past_symbol hnext).trans (hoperand _ _ _ hmatch)
          rcases Nat.lt_or_ge rest.remaining.length cursor.remaining.length with hlt | hge
          · rw [ih (by omega) (by omega)]
          · rw [hreach.eq_of_length_le hge] at hmatch ⊢
            rw [moreTokens_of_stall hnext hmatch, moreTokens_of_stall hnext hmatch]

/-- The flat loop without its bound. -/
theorem tokensAfter_eq {operand : Parser α} (hoperand : Conserving operand)
    (accepts : Operator → Bool) (cursor : Cursor) :
    tokensAfter accepts operand operators cursor =
      match Operator.next? accepts operators cursor.remaining with
      | none => .matched [] cursor
      | some found =>
          (operand (cursor.past found.symbol)).andThen fun value rest =>
            (tokensAfter accepts operand operators rest).map fun tokens =>
              .operator found :: .operand value :: tokens := by
  -- with one round more than needed, what is left behind a round is still enough
  have hlarger : tokensAfter accepts operand operators cursor =
      moreTokens accepts operand operators (cursor.remaining.length + 1 + 1) cursor :=
    moreTokens_eq_of_lt hoperand (by omega) (by omega)
  rw [hlarger, moreTokens_succ]
  cases hnext : Operator.next? accepts operators cursor.remaining with
  | none => rfl
  | some found =>
      apply Reply.andThen_congr
      intro value rest hmatch
      have hle := ((Contract.reaches_past_symbol hnext).trans (hoperand _ _ _ hmatch)).length_le
      have hrest : moreTokens accepts operand operators (cursor.remaining.length + 1) rest =
          tokensAfter accepts operand operators rest :=
        moreTokens_eq_of_lt hoperand (by omega) (by omega)
      rw [hrest]

/-! ## The loop that groups -/

theorem conserving_extend {primary : Parser (Tree α)} (hprimary : Conserving primary)
    (operators : List Operator) (depth : Nat) (least : Int) (left : Tree α) :
    Conserving (primary.extend operators depth least left) :=
  ((Contract.keptBy_conservation hprimary).extend operators depth least left).conserving

/-- Where a primary consumes nothing, the nested call stops at once, in front of the very operator that
it stands behind. -/
theorem extend_of_stall {primary : Parser (Tree α)} {least : Int} {cursor : Cursor}
    {found : Operator} {start : Tree α}
    (hnext : Operator.next? (Operator.atLeast least) operators cursor.remaining = some found)
    (hstall : primary (cursor.past found.symbol) = .matched start cursor) (depth : Nat)
    (left : Tree α) : extend primary operators depth least left cursor = .fault .diverged := by
  induction depth generalizing left with
  | zero => rfl
  | succ depth ih =>
      have hweaker : Operator.next? (Operator.atLeast (found.precedence + 1)) operators
          cursor.remaining = none := by
        have hfirst := (Operator.next?_eq_some_iff.mp hnext).1
        have htoo : Operator.atLeast (found.precedence + 1) found = false :=
          decide_eq_false (by omega)
        simp [Operator.next?, hfirst, Option.filter, htoo]
      rw [extend_succ]
      simp only [hnext, hstall, Reply.andThen_matched]
      cases depth with
      | zero => rfl
      | succ depth =>
          have hright : extend primary operators (depth + 1) (found.precedence + 1) start cursor =
              .matched start cursor := by
            rw [extend_succ, hweaker]
          rw [hright, Reply.andThen_matched]
          exact ih _

theorem extend_eq_of_lt {primary : Parser (Tree α)} (hprimary : Conserving primary)
    {depth larger : Nat} {least : Int} {left : Tree α} {cursor : Cursor}
    (hdepth : cursor.remaining.length < depth) (hlarger : cursor.remaining.length < larger) :
    extend primary operators larger least left cursor =
      extend primary operators depth least left cursor := by
  induction depth generalizing larger least left cursor with
  | zero => omega
  | succ depth ih =>
      obtain ⟨larger, rfl⟩ := Nat.exists_eq_succ_of_ne_zero (Nat.ne_zero_of_lt hlarger)
      cases hnext : Operator.next? (Operator.atLeast least) operators cursor.remaining with
      | none => rw [extend_succ, extend_succ, hnext]
      | some found =>
          cases hstart : primary (cursor.past found.symbol) with
          | failed failure => rw [extend_succ, extend_succ, hnext]; simp only [hstart]; rfl
          | fault cause => rw [extend_succ, extend_succ, hnext]; simp only [hstart]; rfl
          | matched start inside =>
              have hreach : cursor.Reaches inside :=
                (Contract.reaches_past_symbol hnext).trans (hprimary _ _ _ hstart)
              rcases Nat.lt_or_ge inside.remaining.length cursor.remaining.length with hlt | hge
              · rw [extend_succ, extend_succ]
                simp only [hnext, hstart, Reply.andThen_matched]
                -- first what stands to the right of the operator, then the loop behind it
                rw [ih (by omega) (by omega)]
                apply Reply.andThen_congr
                intro right rest hmatch
                have hle := (conserving_extend hprimary operators _ _ _ _ _ _ hmatch).length_le
                exact ih (by omega) (by omega)
              · rw [hreach.eq_of_length_le hge] at hstart
                rw [extend_of_stall hnext hstart, extend_of_stall hnext hstart]

theorem conserving_grow {primary : Parser (Tree α)} (hprimary : Conserving primary)
    (operators : List Operator) (least : Int) (left : Tree α) :
    Conserving (primary.grow operators least left) :=
  fun cursor => conserving_extend hprimary operators _ least left cursor

/-- The loop that groups without its bound: the right side of an operator is an expression of its
own, with a threshold one higher. -/
theorem grow_eq {primary : Parser (Tree α)} (hprimary : Conserving primary) (least : Int)
    (left : Tree α) (cursor : Cursor) :
    grow primary operators least left cursor =
      match Operator.next? (Operator.atLeast least) operators cursor.remaining with
      | none => .matched left cursor
      | some found =>
          (climb primary operators (found.precedence + 1) (cursor.past found.symbol)).andThen
            fun right rest => grow primary operators least (.binary left found right) rest := by
  have hlarger : grow primary operators least left cursor =
      extend primary operators (cursor.remaining.length + 1 + 1) least left cursor :=
    extend_eq_of_lt hprimary (by omega) (by omega)
  rw [hlarger, extend_succ]
  cases hnext : Operator.next? (Operator.atLeast least) operators cursor.remaining with
  | none => rfl
  | some found =>
      have hpast := (Contract.reaches_past_symbol hnext).length_le
      have hright : ((primary (cursor.past found.symbol)).andThen fun start inside =>
            extend primary operators (cursor.remaining.length + 1) (found.precedence + 1) start
              inside) =
          climb primary operators (found.precedence + 1) (cursor.past found.symbol) := by
        rw [climb_eq]
        apply Reply.andThen_congr
        intro start inside hstart
        have hle := (hprimary _ _ _ hstart).length_le
        exact extend_eq_of_lt hprimary (by omega) (by omega)
      simp only [hright]
      apply Reply.andThen_congr
      intro right rest hmatch
      obtain ⟨start, inside, hstart, hgrow⟩ := Reply.andThen_eq_matched_iff.mp hmatch
      have hle := (hprimary _ _ _ hstart).length_le
      have hend := (conserving_grow hprimary operators _ _ _ _ _ hgrow).length_le
      exact extend_eq_of_lt hprimary (by omega) (by omega)

end Parser

end ParserCombinators
