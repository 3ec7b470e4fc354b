import ParserCombinators.Expression.Operator

/-!
# Symbols that are told apart

An operator is found by its symbol alone, and of several symbols that match the first in the table
is taken.  Where no symbol starts another one, at most one of them matches, so what is found does not
depend on the order of the table: a text that starts with a symbol of the table starts with the
operator of that symbol (`PrefixFree.first?_append`).
-/

namespace ParserCombinators

variable {operators : List Operator}

/-- No infix symbol of the table is empty or starts the symbol of another infix operator. -/
structure PrefixFree (operators : List Operator) : Prop where
  symbol_ne_nil : ∀ operator ∈ operators, operator.fixity = .infixOp → operator.symbol ≠ []
  eq_of_isPrefix : ∀ first ∈ operators, ∀ second ∈ operators, first.fixity = .infixOp →
    second.fixity = .infixOp → first.symbol <+: second.symbol → first = second

theorem Operator.first?_nil
    (hsymbols : ∀ operator ∈ operators, operator.fixity = .infixOp → operator.symbol ≠ []) :
    Operator.first? operators [] = none := by
  cases hfirst : Operator.first? operators [] with
  | none => rfl
  | some found =>
      obtain ⟨hmem, hfixity, hsymbol⟩ := Operator.first?_eq_some hfirst
      exact absurd (List.prefix_nil.mp hsymbol) (hsymbols found hmem hfixity)

theorem PrefixFree.first?_append (h : PrefixFree operators) {operator : Operator}
    (hmem : operator ∈ operators) (hfixity : operator.fixity = .infixOp) (rest : Text) :
    Operator.first? operators (operator.symbol ++ rest) = some operator := by
  have hstart : operator.symbol <+: operator.symbol ++ rest := List.prefix_append _ _
  cases hfirst : Operator.first? operators (operator.symbol ++ rest) with
  | none =>
      have hnone := List.find?_eq_none.mp hfirst operator hmem
      simp [Operator.starts, hfixity] at hnone
  | some found =>
      obtain ⟨hfound, hother, hsymbol⟩ := Operator.first?_eq_some hfirst
      -- both symbols start the text, so one of them starts the other
      rcases List.prefix_or_prefix_of_prefix hsymbol hstart with hle | hle
      · rw [h.eq_of_isPrefix found hfound operator hmem hother hfixity hle]
      · rw [h.eq_of_isPrefix operator hmem found hfound hfixity hother hle]

end ParserCombinators
