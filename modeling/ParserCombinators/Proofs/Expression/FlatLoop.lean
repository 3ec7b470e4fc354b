import ParserCombinators.Calculator.Basic
import ParserCombinators.Proofs.Expression.Progress

/-!
# Climbing agrees with the flat loop

An expression parser meets an operator several times: each nested call that the operator is too
weak for stops in front of it, and the call outside looks at it again.  The flat loop sees it once.
This file proves that they read the same tokens all the same, and fail in the same way.

The connection is a law of the flat loop alone, `tokensAfter_split`: a loop that accepts more
operators is a stricter loop followed by itself.  For the operator that has just been read, the
stricter loop is the nested call, whose threshold is one above that operator, and what follows is
the rest of the outer loop (`tokens_grow`).
-/

namespace ParserCombinators

variable {α β : Type}

namespace Parser

variable {operand : Parser α} {operators : List Operator}

/-! ## Two thresholds -/

theorem tokensAfter_split (h : Advancing operand operators) {strict accepts : Operator → Bool}
    (hweaker : ∀ operator, strict operator = true → accepts operator = true) (cursor : Cursor) :
    tokensAfter accepts operand operators cursor =
      (tokensAfter strict operand operators cursor).andThen fun front middle =>
        (tokensAfter accepts operand operators middle).map (front ++ ·) := by
  induction hlength : cursor.remaining.length using Nat.strongRecOn generalizing cursor with
  | ind length ih =>
      subst hlength
      cases hstrict : Operator.next? strict operators cursor.remaining with
      | none =>
          have hstop : tokensAfter strict operand operators cursor = .matched [] cursor := by
            rw [tokensAfter_eq h.conserving, hstrict]
          simp [hstop]
      | some found =>
          have haccepts : Operator.next? accepts operators cursor.remaining = some found := by
            obtain ⟨hfound, hpasses⟩ := Operator.next?_eq_some_iff.mp hstrict
            exact Operator.next?_eq_some_iff.mpr ⟨hfound, hweaker found hpasses⟩
          rw [tokensAfter_eq h.conserving accepts, tokensAfter_eq h.conserving strict]
          simp only [hstrict, haccepts, Reply.andThen_andThen]
          apply Reply.andThen_congr
          intro value rest hvalue
          rw [ih _ (h.length_lt hstrict hvalue) rest rfl]
          simp only [Reply.map_andThen, Reply.andThen_map, Reply.map_map, List.cons_append]

theorem atLeast_weaken {least larger : Int} (h : least ≤ larger) (operator : Operator)
    (hlarger : operator.atLeast larger = true) : operator.atLeast least = true := by
  simp only [Operator.atLeast, decide_eq_true_eq] at hlarger ⊢
  omega

/-! ## The tree holds the tokens of the flat loop -/

theorem tokens_grow (h : Advancing operand operators) (least : Int) (left : Tree α)
    (cursor : Cursor) :
    (grow operand.leaf operators least left cursor).map Tree.tokens =
      (tokensAfter (Operator.atLeast least) operand operators cursor).map (left.tokens ++ ·) := by
  induction hlength : cursor.remaining.length using Nat.strongRecOn
    generalizing least left cursor with
  | ind length ih =>
      subst hlength
      rw [grow_eq h.leaf.conserving, tokensAfter_eq h.conserving]
      cases hnext : Operator.next? (Operator.atLeast least) operators cursor.remaining with
      | none => simp
      | some found =>
          have hweaker : ∀ operator : Operator, operator.atLeast (found.precedence + 1) = true →
              operator.atLeast least = true := by
            have hfound := (Operator.next?_eq_some_iff.mp hnext).2
            simp only [Operator.atLeast, decide_eq_true_eq] at hfound
            exact atLeast_weaken (by omega)
          simp only [climb_eq, leaf, Parser.map, Reply.andThen_map, Reply.andThen_andThen,
            Reply.map_andThen]
          apply Reply.andThen_congr
          intro value inside hvalue
          have hlt := h.length_lt hnext hvalue
          calc (grow operand.leaf operators (found.precedence + 1) (.leaf value) inside).andThen
                (fun right rest =>
                  (grow operand.leaf operators least (.binary left found right) rest).map Tree.tokens)
              = (grow operand.leaf operators (found.precedence + 1) (.leaf value) inside).andThen
                  fun right rest =>
                    (tokensAfter (Operator.atLeast least) operand operators rest).map
                      ((left.tokens ++ .operator found :: right.tokens) ++ ·) := by
                apply Reply.andThen_congr
                intro right rest hmatch
                have hle := (conserving_grow h.leaf.conserving _ _ _ _ _ _ hmatch).length_le
                exact ih _ (by omega) least (.binary left found right) rest rfl
            _ = ((grow operand.leaf operators (found.precedence + 1) (.leaf value) inside).map
                  Tree.tokens).andThen fun tokens rest =>
                    (tokensAfter (Operator.atLeast least) operand operators rest).map
                      ((left.tokens ++ .operator found :: tokens) ++ ·) := by
                rw [Reply.andThen_map]
            _ = ((tokensAfter (Operator.atLeast (found.precedence + 1)) operand operators
                  inside).map ([.operand value] ++ ·)).andThen fun tokens rest =>
                    (tokensAfter (Operator.atLeast least) operand operators rest).map
                      ((left.tokens ++ .operator found :: tokens) ++ ·) := by
                rw [ih _ hlt _ _ inside rfl]
                rfl
            _ = ((tokensAfter (Operator.atLeast least) operand operators inside).map
                  fun tokens => .operator found :: .operand value :: tokens).map
                    (left.tokens ++ ·) := by
                rw [tokensAfter_split h hweaker inside]
                simp [Reply.map_andThen, Reply.andThen_map]

/-! ## What stops the flat loop -/

theorem moreTokens_congr {first second : Operator → Bool} (rounds : Nat) (cursor : Cursor)
    (h : ∀ found ∈ operators, found.fixity = .infixOp → first found = second found) :
    moreTokens first operand operators rounds cursor =
      moreTokens second operand operators rounds cursor := by
  induction rounds generalizing cursor with
  | zero => rfl
  | succ rounds ih =>
      have hnext : Operator.next? first operators cursor.remaining =
          Operator.next? second operators cursor.remaining := by
        unfold Operator.next?
        cases hfound : Operator.first? operators cursor.remaining with
        | none => rfl
        | some found =>
            obtain ⟨hmem, hinfix, -⟩ := Operator.first?_eq_some hfound
            rw [Option.filter, Option.filter, h found hmem hinfix]
      rw [moreTokens_succ, moreTokens_succ, hnext]
      simp only [ih]

theorem tokensWhile_congr {first second : Operator → Bool} (cursor : Cursor)
    (h : ∀ found ∈ operators, found.fixity = .infixOp → first found = second found) :
    operand.tokensWhile first operators cursor = operand.tokensWhile second operators cursor := by
  apply Reply.andThen_congr
  intro value rest _
  rw [moreTokens_congr _ rest h]

/-- The reply is a match, or else the reply of the operand at a place that has been reached. -/
def BlamesOperand (operand : Parser α) (start : Cursor) (reply : Reply β) : Prop :=
  reply.Satisfies (fun _ rest => start.Reaches rest)
    (fun failure => ∃ place, start.Reaches place ∧ operand place = .failed failure)
    (fun cause => ∃ place, start.Reaches place ∧ operand place = .fault cause)

theorem blamesOperand_self (hoperand : Conserving operand) (cursor : Cursor) :
    BlamesOperand operand cursor (operand cursor) := by
  cases h : operand cursor with
  | matched value rest => exact hoperand cursor value rest h
  | failed failure => exact ⟨cursor, .refl cursor, h⟩
  | fault cause => exact ⟨cursor, .refl cursor, h⟩

theorem BlamesOperand.of_reaches {start middle : Cursor} {reply : Reply β}
    (h : BlamesOperand operand middle reply) (hreach : start.Reaches middle) :
    BlamesOperand operand start reply := by
  cases reply with
  | matched value rest => exact hreach.trans h
  | failed failure =>
      obtain ⟨place, hplace, heq⟩ := h
      exact ⟨place, hreach.trans hplace, heq⟩
  | fault cause =>
      obtain ⟨place, hplace, heq⟩ := h
      exact ⟨place, hreach.trans hplace, heq⟩

theorem BlamesOperand.andThen {γ : Type} {start : Cursor} {reply : Reply β}
    {onMatch : β → Cursor → Reply γ} (h : BlamesOperand operand start reply)
    (hnext : ∀ value rest, reply = .matched value rest →
      BlamesOperand operand rest (onMatch value rest)) :
    BlamesOperand operand start (reply.andThen onMatch) := by
  cases reply with
  | matched value rest => exact (hnext value rest rfl).of_reaches h
  | failed failure => exact h
  | fault cause => exact h

theorem BlamesOperand.map {γ : Type} {start : Cursor} {reply : Reply β}
    (h : BlamesOperand operand start reply) (f : β → γ) :
    BlamesOperand operand start (reply.map f) :=
  h.andThen fun _ rest _ => .refl rest

theorem blamesOperand_tokensAfter (h : Advancing operand operators) (accepts : Operator → Bool)
    (cursor : Cursor) :
    BlamesOperand operand cursor (tokensAfter accepts operand operators cursor) := by
  induction hlength : cursor.remaining.length using Nat.strongRecOn generalizing cursor with
  | ind length ih =>
      subst hlength
      rw [tokensAfter_eq h.conserving]
      cases hnext : Operator.next? accepts operators cursor.remaining with
      | none => exact .refl cursor
      | some found =>
          refine BlamesOperand.of_reaches ?_ (Contract.reaches_past_symbol hnext)
          apply (blamesOperand_self h.conserving _).andThen
          intro value rest hvalue
          exact (ih _ (h.length_lt hnext hvalue) rest rfl).map _

theorem blamesOperand_tokensWhile (h : Advancing operand operators) (accepts : Operator → Bool)
    (cursor : Cursor) :
    BlamesOperand operand cursor (operand.tokensWhile accepts operators cursor) :=
  (blamesOperand_self h.conserving cursor).andThen fun _ rest _ =>
    (blamesOperand_tokensAfter h accepts rest).map _

/-- What an expression reads, seen as tokens, is what the flat loop reads. -/
theorem tokens_climb (h : Advancing operand operators) (least : Int) (cursor : Cursor) :
    (climb operand.leaf operators least cursor).map Tree.tokens =
      operand.tokensWhile (Operator.atLeast least) operators cursor := by
  simp only [climb_eq, leaf, Parser.map, tokensWhile_eq, Reply.andThen_map, Reply.map_andThen]
  exact Reply.andThen_congr fun value rest _ => tokens_grow h least (.leaf value) rest

end Parser

/-- An expression parser and the flat loop give the same reply, up to the grouping of the tokens.
The operand alone is to blame when they give none, so neither runs out of its bound; and with a
threshold that every operator meets the flat loop is the tokenizer. -/
theorem expression_agrees_with_flat_loop {operand : Parser α} (hoperand : Conserving operand)
    (operators : List Operator)
    (hsymbols : ∀ found ∈ operators, found.fixity = .infixOp → found.symbol ≠ [])
    (least : Int) (cursor : Cursor) :
    (((ExpressionParser.plain operand operators).withMinPrecedence least).parser cursor).map
        Tree.tokens =
      operand.tokensWhile (fun found => decide (least ≤ found.precedence)) operators cursor ∧
    (∀ failure, ((ExpressionParser.plain operand operators).withMinPrecedence least).parser cursor =
        .failed failure →
      ∃ place, cursor.Reaches place ∧ operand place = .failed failure) ∧
    (∀ cause, ((ExpressionParser.plain operand operators).withMinPrecedence least).parser cursor =
        .fault cause →
      ∃ place, cursor.Reaches place ∧ operand place = .fault cause) ∧
    ((∀ found ∈ operators, found.fixity = .infixOp → least ≤ found.precedence) →
      (((ExpressionParser.plain operand operators).withMinPrecedence least).parser cursor).map
          Tree.tokens =
        operand.tokenize operators cursor) := by
  have hadvancing : Advancing operand operators := .of_symbols hoperand hsymbols
  have htokens := Parser.tokens_climb hadvancing least cursor
  have hblames := Parser.blamesOperand_tokensWhile hadvancing (Operator.atLeast least) cursor
  refine ⟨htokens, ?_, ?_, ?_⟩
  · intro failure hfailure
    rw [← htokens] at hblames
    change Parser.climb operand.leaf operators least cursor = _ at hfailure
    rwa [hfailure] at hblames
  · intro cause hcause
    rw [← htokens] at hblames
    change Parser.climb operand.leaf operators least cursor = _ at hcause
    rwa [hcause] at hblames
  · intro hleast
    refine htokens.trans (Parser.tokensWhile_congr cursor fun found hfound hinfix => ?_)
    exact decide_eq_true (hleast found hfound hinfix)

/-- A sum with two symbols of which one starts the other, an entry that is no infix operator, and a
threshold that both precedences meet. -/
theorem expression_agrees_with_flat_loop_of_arrow :
    Conserving Parser.integer ∧
    (((ExpressionParser.plain Parser.integer
        [⟨.prefixOp, [], 9⟩, ⟨.infixOp, ['-', '>'], -3⟩, ⟨.infixOp, ['-'], 4⟩]).withMinPrecedence
          (-5)).parser (.ofText ['1', '-', '2', '-', '>', '3', '!'])).map Tree.tokens =
      .matched [.operand 1, .operator ⟨.infixOp, ['-'], 4⟩, .operand 2,
        .operator ⟨.infixOp, ['-', '>'], -3⟩, .operand 3] ⟨['!'], ⟨6, 0, 6⟩⟩ := by
  have hinteger : Conserving Parser.integer := Contract.conservation.keptBy_integer.conserving
  have hagrees := expression_agrees_with_flat_loop hinteger
    [⟨.prefixOp, [], 9⟩, ⟨.infixOp, ['-', '>'], -3⟩, ⟨.infixOp, ['-'], 4⟩]
    (by decide) (-5) (.ofText ['1', '-', '2', '-', '>', '3', '!'])
  refine ⟨hinteger, ?_⟩
  rw [hagrees.2.2.2 (by decide)]
  decide

end ParserCombinators
