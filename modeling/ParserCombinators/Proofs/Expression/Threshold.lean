import ParserCombinators.Proofs.Expression.FlatLoop

/-!
# Two thresholds

Reading with a lower threshold goes on where reading with a higher one stopped: the tree that has
been built so far is the left operand of what follows (`climb_split`).  It is the law of the flat
loop (`tokensAfter_split`) for trees.  So a higher threshold only stops earlier, and whatever a
lower one reads beyond that place starts with an operator.

What follows only ever puts operators above the tree, with that tree on their left
(`mem_leftSpine_of_grow`).  The tree of the higher threshold is therefore found in the tree of the
lower one by going down through left operands (`exists_climb_of_le`), and where the higher threshold
fails the lower one has not got any further (`climb_failed_of_le`).
-/

namespace ParserCombinators.Parser

variable {α : Type} {primary : Parser (Tree α)} {operators : List Operator}

theorem grow_split (h : Advancing primary operators) {least higher : Int} (hle : least ≤ higher)
    (left : Tree α) (cursor : Cursor) :
    grow primary operators least left cursor =
      (grow primary operators higher left cursor).andThen fun tree middle =>
        grow primary operators least tree middle := by
  induction hlength : cursor.remaining.length using Nat.strongRecOn generalizing left cursor with
  | ind length ih =>
      subst hlength
      cases hhigher : Operator.next? (Operator.atLeast higher) operators cursor.remaining with
      | none => rw [grow_of_none hhigher, Reply.andThen_matched]
      | some found =>
          have hlower : Operator.next? (Operator.atLeast least) operators cursor.remaining =
              some found := by
            obtain ⟨hfirst, haccepts⟩ := Operator.next?_eq_some_iff.mp hhigher
            exact Operator.next?_eq_some_iff.mpr ⟨hfirst, atLeast_weaken hle found haccepts⟩
          rw [grow_eq h.conserving least, grow_eq h.conserving higher]
          simp only [hlower, hhigher, Reply.andThen_andThen]
          apply Reply.andThen_congr
          intro right rest hmatch
          have hlt : rest.remaining.length < cursor.remaining.length :=
            h.length_lt_of_andThen hhigher (conserving_grow h.conserving operators _) hmatch
          exact ih _ hlt _ rest rfl

/-- An expression is the expression of a higher threshold, grown further. -/
theorem climb_split (h : Advancing primary operators) {least higher : Int} (hle : least ≤ higher)
    (cursor : Cursor) :
    primary.climb operators least cursor =
      (primary.climb operators higher cursor).andThen fun tree middle =>
        grow primary operators least tree middle := by
  rw [climb_eq, climb_eq, Reply.andThen_andThen]
  exact Reply.andThen_congr fun left rest _ => grow_split h hle left rest

/-! ## What is cut off -/

variable {left tree : Tree α} {cursor rest : Cursor} {least higher : Int}

/-- The induction is on the bound of the loop: each of its rounds makes the tree so far the left operand of
the next one. -/
theorem mem_leftSpine_of_extend {depth : Nat}
    (hmatch : primary.extend operators depth least left cursor = .matched tree rest) :
    left ∈ tree.leftSpine := by
  induction depth generalizing left cursor with
  | zero => cases hmatch
  | succ depth ih =>
      rw [extend_succ] at hmatch
      split at hmatch
      · cases hmatch
        exact tree.self_mem_leftSpine
      · next found _ =>
          obtain ⟨right, middle, -, hloop⟩ := Reply.andThen_eq_matched_iff.mp hmatch
          exact Tree.left_mem_leftSpine (ih hloop)

theorem mem_leftSpine_of_grow (hmatch : grow primary operators least left cursor = .matched tree rest) :
    left ∈ tree.leftSpine :=
  mem_leftSpine_of_extend hmatch

/-- Where the lower threshold matches, the higher one has matched on the way. -/
theorem exists_climb_of_le (h : Advancing primary operators) (hle : least ≤ higher)
    (hmatch : primary.climb operators least cursor = .matched tree rest) :
    ∃ inner middle, primary.climb operators higher cursor = .matched inner middle ∧
      cursor.Reaches middle ∧ middle.Reaches rest ∧ inner ∈ tree.leftSpine := by
  rw [climb_split h hle] at hmatch
  obtain ⟨inner, middle, hhigher, hgrow⟩ := Reply.andThen_eq_matched_iff.mp hmatch
  have hclimb : Conserving (primary.climb operators higher) :=
    ((Contract.keptBy_conservation h.conserving).climb operators higher).conserving
  exact ⟨inner, middle, hhigher, hclimb _ _ _ hhigher,
    conserving_grow h.conserving _ _ _ _ _ _ hgrow, mem_leftSpine_of_grow hgrow⟩

/-- Where the higher threshold fails, the lower one fails in the same way. -/
theorem climb_failed_of_le (h : Advancing primary operators) (hle : least ≤ higher)
    {failure : Failure} (hfailed : primary.climb operators higher cursor = .failed failure) :
    primary.climb operators least cursor = .failed failure := by
  rw [climb_split h hle, hfailed, Reply.andThen_failed]

end ParserCombinators.Parser

namespace ParserCombinators

/-- With a higher threshold an expression stops earlier or at the same place, and its tree is on the left
spine of the tree that the lower threshold gives.  It does not fail for other reasons. -/
theorem higher_threshold_cuts_short {α : Type} {operand : Parser α} (hoperand : Conserving operand)
    {operators : List Operator}
    (hsymbols : ∀ found ∈ operators, found.fixity = .infixOp → found.symbol ≠ [])
    {least higher : Int} (hle : least ≤ higher) (cursor : Cursor) :
    (∀ tree rest,
      ((ExpressionParser.plain operand operators).withMinPrecedence least).parser cursor =
        .matched tree rest →
      ∃ inner front back,
        ((ExpressionParser.plain operand operators).withMinPrecedence higher).parser cursor =
          .matched inner (cursor.past front) ∧
        front ++ back <+: cursor.remaining ∧ rest = cursor.past (front ++ back) ∧
        inner ∈ tree.leftSpine) ∧
    ∀ failure,
      ((ExpressionParser.plain operand operators).withMinPrecedence higher).parser cursor =
        .failed failure →
      ((ExpressionParser.plain operand operators).withMinPrecedence least).parser cursor =
        .failed failure := by
  have hadvancing : Advancing operand.leaf operators := (Advancing.of_symbols hoperand hsymbols).leaf
  constructor
  · intro tree rest hmatch
    obtain ⟨inner, middle, hhigher, hfront, hback, hspine⟩ :=
      Parser.exists_climb_of_le hadvancing hle hmatch
    obtain ⟨front, hahead, rfl⟩ := Cursor.reaches_iff_past.mp hfront
    obtain ⟨back, hbehind, rfl⟩ := Cursor.reaches_iff_past.mp hback
    refine ⟨inner, front, back, hhigher, ?_, (Cursor.past_append cursor front back).symm, hspine⟩
    exact (Cursor.isPrefix_past_iff hahead).mp hbehind
  · intro failure hfailed
    exact Parser.climb_failed_of_le hadvancing hle hfailed

/-- Of `1 * 2 + 3 * 4` the higher threshold reads the first product.  When the second factor is missing,
both fail in front of it. -/
theorem higher_threshold_cuts_short_of_sum :
    Conserving Parser.integer ∧
    ((ExpressionParser.plain Parser.integer
        [⟨.infixOp, ['+'], -1⟩, ⟨.infixOp, ['*'], 2⟩]).withMinPrecedence (-1)).parser
          ⟨['1', '*', '2', '+', '3', '*', '4', ')'], ⟨5, 1, 2⟩⟩ =
      .matched (.binary (.binary (.leaf 1) ⟨.infixOp, ['*'], 2⟩ (.leaf 2)) ⟨.infixOp, ['+'], -1⟩
        (.binary (.leaf 3) ⟨.infixOp, ['*'], 2⟩ (.leaf 4))) ⟨[')'], ⟨12, 1, 9⟩⟩ ∧
    ((ExpressionParser.plain Parser.integer
        [⟨.infixOp, ['+'], -1⟩, ⟨.infixOp, ['*'], 2⟩]).withMinPrecedence 0).parser
          ⟨['1', '*', '2', '+', '3', '*', '4', ')'], ⟨5, 1, 2⟩⟩ =
      .matched (.binary (.leaf 1) ⟨.infixOp, ['*'], 2⟩ (.leaf 2))
        ⟨['+', '3', '*', '4', ')'], ⟨8, 1, 5⟩⟩ ∧
    (∃ inner front back,
      ((ExpressionParser.plain Parser.integer
          [⟨.infixOp, ['+'], -1⟩, ⟨.infixOp, ['*'], 2⟩]).withMinPrecedence 0).parser
            ⟨['1', '*', '2', '+', '3', '*', '4', ')'], ⟨5, 1, 2⟩⟩ =
        .matched inner ((Cursor.mk ['1', '*', '2', '+', '3', '*', '4', ')'] ⟨5, 1, 2⟩).past front) ∧
      (⟨[')'], ⟨12, 1, 9⟩⟩ : Cursor) =
        (Cursor.mk ['1', '*', '2', '+', '3', '*', '4', ')'] ⟨5, 1, 2⟩).past (front ++ back) ∧
      inner ∈ Tree.leftSpine (.binary (.binary (.leaf 1) ⟨.infixOp, ['*'], 2⟩ (.leaf 2))
        ⟨.infixOp, ['+'], -1⟩ (.binary (.leaf 3) ⟨.infixOp, ['*'], 2⟩ (.leaf 4)))) ∧
    ∃ failure,
      ((ExpressionParser.plain Parser.integer
          [⟨.infixOp, ['+'], -1⟩, ⟨.infixOp, ['*'], 2⟩]).withMinPrecedence 0).parser
            (.ofText ['1', '*', '+', '3']) = .failed failure ∧
      ((ExpressionParser.plain Parser.integer
          [⟨.infixOp, ['+'], -1⟩, ⟨.infixOp, ['*'], 2⟩]).withMinPrecedence (-1)).parser
            (.ofText ['1', '*', '+', '3']) = .failed failure := by
  have hinteger : Conserving Parser.integer := Contract.conservation.keptBy_integer.conserving
  have hlower : ((ExpressionParser.plain Parser.integer
        [⟨.infixOp, ['+'], -1⟩, ⟨.infixOp, ['*'], 2⟩]).withMinPrecedence (-1)).parser
          ⟨['1', '*', '2', '+', '3', '*', '4', ')'], ⟨5, 1, 2⟩⟩ =
      .matched (.binary (.binary (.leaf 1) ⟨.infixOp, ['*'], 2⟩ (.leaf 2)) ⟨.infixOp, ['+'], -1⟩
        (.binary (.leaf 3) ⟨.infixOp, ['*'], 2⟩ (.leaf 4))) ⟨[')'], ⟨12, 1, 9⟩⟩ := by decide
  have hcuts := @higher_threshold_cuts_short Int Parser.integer hinteger
    [⟨.infixOp, ['+'], -1⟩, ⟨.infixOp, ['*'], 2⟩] (by decide) (-1) 0 (by decide)
  obtain ⟨inner, front, back, hhigher, -, hrest, hspine⟩ := (hcuts _).1 _ _ hlower
  have hfails : ∃ failure, ((ExpressionParser.plain Parser.integer
        [⟨.infixOp, ['+'], -1⟩, ⟨.infixOp, ['*'], 2⟩]).withMinPrecedence 0).parser
          (.ofText ['1', '*', '+', '3']) = .failed failure := ⟨_, rfl⟩
  obtain ⟨failure, hfailed⟩ := hfails
  exact ⟨hinteger, hlower, by decide, ⟨inner, front, back, hhigher, hrest, hspine⟩, failure, hfailed,
    (hcuts _).2 failure hfailed⟩

end ParserCombinators
