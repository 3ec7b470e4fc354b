import ParserCombinators.Expression.Operator

/-!
# Expression trees and token lists

A tree groups what a token list holds side by side.  `Tree.tokens` reads a tree from left to right
and so forgets the grouping.
-/

namespace ParserCombinators

/-- An expression of binary operators over leaves. -/
inductive Tree (α : Type) where
  | leaf (value : α)
  | binary (left : Tree α) (operator : Operator) (right : Tree α)
  deriving DecidableEq, Repr

/-- One element of an expression that has not been grouped. -/
inductive Token (α : Type) where
  | operand (value : α)
  | operator (operator : Operator)
  deriving DecidableEq, Repr

namespace Tree

variable {α : Type}

/-- The leaves and operators from left to right. -/
def tokens : Tree α → List (Token α)
  | .leaf value => [.operand value]
  | .binary left operator right => left.tokens ++ .operator operator :: right.tokens

/-- The leaves from left to right. -/
def leaves : Tree α → List α
  | .leaf value => [value]
  | .binary left _ right => left.leaves ++ right.leaves

/-- The operators from left to right. -/
def operators : Tree α → List Operator
  | .leaf _ => []
  | .binary left operator right => left.operators ++ operator :: right.operators

/-- The tree itself and the subtrees that are reached from it through left operands only. -/
def leftSpine : Tree α → List (Tree α)
  | .leaf value => [.leaf value]
  | .binary left operator right => .binary left operator right :: left.leftSpine

theorem self_mem_leftSpine (tree : Tree α) : tree ∈ tree.leftSpine := by
  cases tree <;> exact List.mem_cons_self

/-- With a tree its left operand is on the spine. -/
theorem left_mem_leftSpine {tree left right : Tree α} {operator : Operator}
    (h : binary left operator right ∈ tree.leftSpine) : left ∈ tree.leftSpine := by
  induction tree with
  | leaf value => simp [leftSpine] at h
  | binary first root second ih _ =>
      rcases List.mem_cons.mp h with heq | hinner
      · cases heq
        exact List.mem_cons_of_mem _ left.self_mem_leftSpine
      · exact List.mem_cons_of_mem _ (ih hinner)

/-- The grouping that precedences ask for, with equal precedences grouped to the left: below an
operator, those on its left bind at least as tightly and those on its right bind more tightly. -/
def Canonical : Tree α → Prop
  | .leaf _ => True
  | .binary left operator right =>
      left.Canonical ∧ right.Canonical ∧
        (∀ inner ∈ left.operators, operator.precedence ≤ inner.precedence) ∧
        ∀ inner ∈ right.operators, operator.precedence < inner.precedence

end Tree

end ParserCombinators
