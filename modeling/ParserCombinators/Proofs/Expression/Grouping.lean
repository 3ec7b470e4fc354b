import ParserCombinators.Calculator.Basic

/-!
# How expressions are grouped

The loop of a climbing parser relies on one fact about the tree that it has gathered on the left:
the operator that comes next binds no more tightly than any operator of that tree outside
parentheses.  It holds because a nested call only stops in front of an operator that is too weak
for it (`ClimbInvariant.extend`).

* `ClimbInvariant` packages the argument for any property that primaries have at every level, that
  is kept when the level is lowered, and that is kept when an operator joins a left side of its own
  level and a right side of the level above;
* `Tree.Canonical.eq_of_tokens_eq` says that a list of tokens has at most one grouping in which
  operators on the left bind at least as tightly and operators on the right more tightly.

Both together say that an expression parser builds the one grouping that there is.  The induction is on
the bound of the loop, and it asks nothing of the operand: what is said holds of every tree that is read
within any bound, also where an operand does not go on in the text where it was started.
-/

namespace ParserCombinators

variable {α : Type}

/-! ## The invariant of the loop -/

/-- A property of what an expression parser reads between two cursors at a level, which holds of
primaries at every level and is kept when an operator of the level is added. -/
structure ClimbInvariant (primary : Parser (Tree α)) (operators : List Operator)
    (good : Int → Cursor → Tree α → Cursor → Prop) : Prop where
  primary : ∀ {cursor tree rest}, primary cursor = .matched tree rest →
    ∀ level, good level cursor tree rest
  weaken : ∀ {lower level cursor tree rest}, lower ≤ level →
    good level cursor tree rest → good lower cursor tree rest
  binary : ∀ {cursor left middle found right rest},
    Operator.first? operators middle.remaining = some found →
    good found.precedence cursor left middle →
    good (found.precedence + 1) (middle.past found.symbol) right rest →
    good found.precedence cursor (.binary left found right) rest

namespace ClimbInvariant

variable {primary : Parser (Tree α)} {operators : List Operator}
  {good : Int → Cursor → Tree α → Cursor → Prop} {least : Int} {start cursor rest : Cursor}
  {left tree : Tree α}

/-- What the loop makes of a left side that is good at the threshold and at the level of the
operator that comes next.  It stops in front of an operator below the threshold. -/
theorem extend (h : ClimbInvariant primary operators good) {depth : Nat}
    (hleft : good least start left cursor)
    (hnext : ∀ next, Operator.first? operators cursor.remaining = some next →
      least ≤ next.precedence → good next.precedence start left cursor)
    (hmatch : primary.extend operators depth least left cursor = .matched tree rest) :
    good least start tree rest ∧
      ∀ next, Operator.first? operators rest.remaining = some next → next.precedence < least := by
  induction depth generalizing least start left cursor tree rest with
  | zero => simp [Parser.extend] at hmatch
  | succ depth ih =>
      rw [Parser.extend_succ] at hmatch
      cases hfound : Operator.next? (Operator.atLeast least) operators cursor.remaining with
      | none =>
          simp only [hfound, Reply.matched.injEq] at hmatch
          obtain ⟨rfl, rfl⟩ := hmatch
          refine ⟨hleft, fun next hfirst => Int.not_le.mp fun hle => ?_⟩
          have hsome : Operator.next? (Operator.atLeast least) operators cursor.remaining =
              some next :=
            Operator.next?_eq_some_iff.mpr ⟨hfirst, decide_eq_true hle⟩
          simp [hfound] at hsome
      | some found =>
          obtain ⟨hfirst, hleast⟩ := Operator.next?_eq_some_iff.mp hfound
          have hleast : least ≤ found.precedence := of_decide_eq_true hleast
          simp only [hfound] at hmatch
          obtain ⟨right, middle, hright, hloop⟩ := Reply.andThen_eq_matched_iff.mp hmatch
          obtain ⟨first, inside, hprimary, hinside⟩ := Reply.andThen_eq_matched_iff.mp hright
          obtain ⟨hgood, hstop⟩ := ih (h.primary hprimary _)
            (fun next _ _ => h.primary hprimary next.precedence) hinside
          have hgrown : good found.precedence start (.binary left found right) middle :=
            h.binary hfirst (hnext found hfirst hleast) hgood
          refine ih (h.weaken hleast hgrown) (fun next hafter _ => ?_) hloop
          -- the nested call stopped here, so the next operator is no stronger than this one
          have hweaker := hstop next hafter
          exact h.weaken (by omega) hgrown

theorem climbWithin (h : ClimbInvariant primary operators good) {depth : Text → Nat}
    (hmatch : primary.climbWithin operators least depth cursor = .matched tree rest) :
    good least cursor tree rest ∧
      ∀ next, Operator.first? operators rest.remaining = some next → next.precedence < least := by
  obtain ⟨first, inside, hprimary, hgrow⟩ := Reply.andThen_eq_matched_iff.mp hmatch
  exact h.extend (h.primary hprimary _) (fun next _ _ => h.primary hprimary next.precedence) hgrow

end ClimbInvariant

/-! ## Trees with the same tokens -/

namespace Tree

theorem mem_operators_iff {tree : Tree α} {operator : Operator} :
    operator ∈ tree.operators ↔ .operator operator ∈ tree.tokens := by
  induction tree with
  | leaf value => simp [operators, tokens]
  | binary left root right ihleft ihright => simp [operators, tokens, ihleft, ihright]

/-- Of two canonical trees with the same tokens, the root of one does not stand to the left of the
root of the other: each root would have to bind more tightly than the other one. -/
theorem Canonical.root_not_before {left right left' right' : Tree α} {root root' : Operator}
    (h : (binary left root right).Canonical) (h' : (binary left' root' right').Canonical)
    {token : Token α} {between : List (Token α)}
    (hleft : left'.tokens = left.tokens ++ token :: between)
    (hright : Token.operator root :: right.tokens =
      (token :: between) ++ Token.operator root' :: right'.tokens) : False := by
  obtain ⟨-, -, -, hstrict⟩ := h
  obtain ⟨-, -, hweak, -⟩ := h'
  simp only [List.cons_append, List.cons.injEq] at hright
  obtain ⟨rfl, hright⟩ := hright
  have hroot : root ∈ left'.operators := mem_operators_iff.mpr (by simp [hleft])
  have hroot' : root' ∈ right.operators := mem_operators_iff.mpr (by simp [hright])
  have hle := hweak root hroot
  have hlt := hstrict root' hroot'
  omega

theorem Canonical.eq_of_tokens_eq {first second : Tree α} (hfirst : first.Canonical)
    (hsecond : second.Canonical) (htokens : first.tokens = second.tokens) : first = second := by
  induction first generalizing second with
  | leaf value =>
      cases second with
      | leaf value' => simpa [tokens] using htokens
      | binary left root right =>
          have hroot : Token.operator root ∈ [Token.operand value] := by
            rw [tokens] at htokens
            simp [htokens, tokens]
          simp at hroot
  | binary left root right ihleft ihright =>
      cases second with
      | leaf value =>
          have hroot : Token.operator root ∈ [Token.operand value] := by
            change _ = [Token.operand value] at htokens
            simp [← htokens, tokens]
          simp at hroot
      | binary left' root' right' =>
          rcases List.append_eq_append_iff.mp htokens with
            ⟨between, hleft, hright⟩ | ⟨between, hleft, hright⟩
          · cases between with
            | cons token between => exact (hfirst.root_not_before hsecond hleft hright).elim
            | nil =>
                simp only [List.append_nil, List.nil_append, List.cons.injEq,
                  Token.operator.injEq] at hleft hright
                rw [ihleft hfirst.1 hsecond.1 hleft.symm, hright.1,
                  ihright hfirst.2.1 hsecond.2.1 hright.2]
          · cases between with
            | cons token between => exact (hsecond.root_not_before hfirst hleft hright).elim
            | nil =>
                simp only [List.append_nil, List.nil_append, List.cons.injEq,
                  Token.operator.injEq] at hleft hright
                rw [ihleft hfirst.1 hsecond.1 hleft, hright.1,
                  ihright hfirst.2.1 hsecond.2.1 hright.2.symm]

end Tree

/-! ## The grouping that is built -/

theorem climbInvariant_canonical (operand : Parser α) (operators : List Operator) :
    ClimbInvariant operand.leaf operators fun level _ tree _ =>
      tree.Canonical ∧ ∀ inner ∈ tree.operators, level ≤ inner.precedence where
  primary := by
    intro cursor tree rest hmatch level
    obtain ⟨value, -, rfl⟩ := Reply.map_eq_matched_iff.mp hmatch
    exact ⟨trivial, by simp [Tree.operators]⟩
  weaken := by
    intro lower level cursor tree rest hle hgood
    exact ⟨hgood.1, fun inner hinner => Int.le_trans hle (hgood.2 inner hinner)⟩
  binary := by
    intro cursor left middle found right rest _ hleft hright
    refine ⟨⟨hleft.1, hright.1, hleft.2, fun inner hinner => ?_⟩, fun inner hinner => ?_⟩
    · have := hright.2 inner hinner
      omega
    · rcases List.mem_append.mp hinner with hinner | hinner
      · exact hleft.2 inner hinner
      · rcases List.mem_cons.mp hinner with rfl | hinner
        · exact Int.le_refl _
        · have := hright.2 inner hinner
          omega

/-- An expression is grouped as its precedences ask for, to the left where they are equal, and no
other tree with these tokens is.  That holds of every operand and every expression that is read to an
end, whatever the depth that this takes. -/
theorem expression_is_the_canonical_tree {operand : Parser α} {operators : List Operator}
    {least : Int} {depth : Text → Nat} {cursor rest : Cursor} {tree : Tree α}
    (hmatch : ((ExpressionParser.plain operand operators).withMinPrecedence least).parserWithin depth
      cursor = .matched tree rest) :
    (∀ inner ∈ tree.operators, least ≤ inner.precedence) ∧ tree.Canonical ∧
      ∀ other : Tree α, other.Canonical → other.tokens = tree.tokens → other = tree := by
  obtain ⟨⟨hcanonical, hleast⟩, -⟩ :=
    (climbInvariant_canonical operand operators).climbWithin hmatch
  exact ⟨hleast, hcanonical, fun other hother htokens =>
    hother.eq_of_tokens_eq hcanonical htokens⟩

/-- An operand that reads a letter, and at the letter `b` goes on over another text. -/
def straying : Parser Char := fun cursor =>
  if cursor.peek = some 'b' then .matched 'b' (.ofText ['*', 'c', '+', 'd', '+', 'e', '+', 'f'])
  else Parser.satisfy Char.isAlpha cursor

/-- Among precedences of both signs, `1 ^ 2 - 3 + 4 ^ 5` has one grouping.  So has `a + b` where the text that
follows `b` is another one, with more operators than `a + b` has characters. -/
theorem expression_is_the_canonical_tree_of_chain :
    (((ExpressionParser.plain Parser.integer
        [⟨.infixOp, ['+'], 3⟩, ⟨.infixOp, ['-'], 3⟩, ⟨.infixOp, ['^'], -7⟩]).withMinPrecedence
          (-7)).parser (.ofText ['1', '^', '2', '-', '3', '+', '4', '^', '5', ')']) =
      .matched (.binary (.binary (.leaf 1) ⟨.infixOp, ['^'], -7⟩
          (.binary (.binary (.leaf 2) ⟨.infixOp, ['-'], 3⟩ (.leaf 3)) ⟨.infixOp, ['+'], 3⟩ (.leaf 4)))
          ⟨.infixOp, ['^'], -7⟩ (.leaf 5)) ⟨[')'], ⟨9, 0, 9⟩⟩ ∧
    ∀ other : Tree Int, other.Canonical →
      other.tokens = [.operand 1, .operator ⟨.infixOp, ['^'], -7⟩, .operand 2,
        .operator ⟨.infixOp, ['-'], 3⟩, .operand 3, .operator ⟨.infixOp, ['+'], 3⟩, .operand 4,
        .operator ⟨.infixOp, ['^'], -7⟩, .operand 5] →
      other = .binary (.binary (.leaf 1) ⟨.infixOp, ['^'], -7⟩
          (.binary (.binary (.leaf 2) ⟨.infixOp, ['-'], 3⟩ (.leaf 3)) ⟨.infixOp, ['+'], 3⟩ (.leaf 4)))
          ⟨.infixOp, ['^'], -7⟩ (.leaf 5)) ∧
    (((ExpressionParser.plain straying
        [⟨.infixOp, ['+'], 3⟩, ⟨.infixOp, ['*'], 5⟩]).withMinPrecedence 3).parserWithin (fun _ => 9)
          (.ofText ['a', '+', 'b']) =
      .matched (.binary (.binary (.binary (.binary (.leaf 'a') ⟨.infixOp, ['+'], 3⟩
          (.binary (.leaf 'b') ⟨.infixOp, ['*'], 5⟩ (.leaf 'c'))) ⟨.infixOp, ['+'], 3⟩ (.leaf 'd'))
          ⟨.infixOp, ['+'], 3⟩ (.leaf 'e')) ⟨.infixOp, ['+'], 3⟩ (.leaf 'f')) ⟨[], ⟨8, 0, 8⟩⟩ ∧
    (Tree.binary (.binary (.binary (.binary (.leaf 'a') ⟨.infixOp, ['+'], 3⟩
        (.binary (.leaf 'b') ⟨.infixOp, ['*'], 5⟩ (.leaf 'c'))) ⟨.infixOp, ['+'], 3⟩ (.leaf 'd'))
        ⟨.infixOp, ['+'], 3⟩ (.leaf 'e')) ⟨.infixOp, ['+'], 3⟩ (.leaf 'f')).Canonical) := by
  have hmatch : ((ExpressionParser.plain Parser.integer
        [⟨.infixOp, ['+'], 3⟩, ⟨.infixOp, ['-'], 3⟩, ⟨.infixOp, ['^'], -7⟩]).withMinPrecedence
          (-7)).parser (.ofText ['1', '^', '2', '-', '3', '+', '4', '^', '5', ')']) =
      .matched (.binary (.binary (.leaf 1) ⟨.infixOp, ['^'], -7⟩
          (.binary (.binary (.leaf 2) ⟨.infixOp, ['-'], 3⟩ (.leaf 3)) ⟨.infixOp, ['+'], 3⟩ (.leaf 4)))
          ⟨.infixOp, ['^'], -7⟩ (.leaf 5)) ⟨[')'], ⟨9, 0, 9⟩⟩ := by decide
  have hstraying : ((ExpressionParser.plain straying
        [⟨.infixOp, ['+'], 3⟩, ⟨.infixOp, ['*'], 5⟩]).withMinPrecedence 3).parserWithin (fun _ => 9)
          (.ofText ['a', '+', 'b']) =
      .matched (.binary (.binary (.binary (.binary (.leaf 'a') ⟨.infixOp, ['+'], 3⟩
          (.binary (.leaf 'b') ⟨.infixOp, ['*'], 5⟩ (.leaf 'c'))) ⟨.infixOp, ['+'], 3⟩ (.leaf 'd'))
          ⟨.infixOp, ['+'], 3⟩ (.leaf 'e')) ⟨.infixOp, ['+'], 3⟩ (.leaf 'f')) ⟨[], ⟨8, 0, 8⟩⟩ := by
    decide
  refine ⟨⟨hmatch, fun other hother htokens => ?_⟩, hstraying,
    (expression_is_the_canonical_tree hstraying).2.1⟩
  exact (expression_is_the_canonical_tree hmatch).2.2 other hother htokens

end ParserCombinators
