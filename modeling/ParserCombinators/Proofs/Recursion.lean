import ParserCombinators.Proofs.Expression.Termination

/-!
# Recursive rules without counting their depth

`Rules.parser` follows references between rules to a depth that it computes from the input.  Rules
are productive when what they read at a place depends on the references only at places with less
input: a rule refers to a rule only behind something that it has consumed.  Then the depth is never
reached, and `Rules.parser_eq` is the equation by which the rules would be defined if recursion
needed no bound: a rule is its body, with the rules themselves for its references.

The depth at which the recursion is cut off appears in no statement that rests on this equation.
-/

namespace ParserCombinators.Rules

variable {ι : Type} {τ : ι → Type} {rules : Rules ι τ}

/-- Rules that refer to rules only behind something that they have consumed. -/
structure Productive (rules : Rules ι τ) : Prop where
  count_pos : 0 < rules.count
  conserving : ∀ env : ∀ r, Parser (τ r), (∀ r, Conserving (env r)) →
    ∀ r, Conserving (rules.body env r)
  body_congr : ∀ first second : ∀ r, Parser (τ r), (∀ r, Conserving (first r)) →
    ∀ cursor : Cursor, (∀ r place, place.remaining.length < cursor.remaining.length →
      first r place = second r place) →
    ∀ r, rules.body first r cursor = rules.body second r cursor

namespace Productive

theorem conserving_unfold (h : Productive rules) (depth : Nat) (r : ι) :
    Conserving (rules.unfold depth r) := by
  induction depth generalizing r with
  | zero =>
      intro cursor value rest hmatch
      simp [Rules.unfold] at hmatch
  | succ depth ih => exact fun cursor => h.conserving (rules.unfold depth) ih r cursor

theorem conserving_rule (h : Productive rules) (r : ι) : Conserving (rules.parser r) :=
  fun cursor => h.conserving_unfold _ r cursor

theorem unfold_eq_of_lt (h : Productive rules) {depth larger : Nat} {cursor : Cursor} {r : ι}
    (hdepth : cursor.remaining.length < depth) (hlarger : cursor.remaining.length < larger) :
    rules.unfold larger r cursor = rules.unfold depth r cursor := by
  induction depth generalizing larger cursor r with
  | zero => omega
  | succ depth ih =>
      obtain ⟨larger, rfl⟩ := Nat.exists_eq_succ_of_ne_zero (Nat.ne_zero_of_lt hlarger)
      apply h.body_congr _ _ (h.conserving_unfold larger)
      intro name place hlt
      exact ih (by omega) (by omega)

theorem lt_depthFor (h : Productive rules) (length : Nat) : length < rules.depthFor length := by
  have hcount := h.count_pos
  calc length
      < 1 * (length + 1) := by omega
    _ ≤ 2 * rules.count * (length + 1) := Nat.mul_le_mul_right _ (by omega)

/-- A rule is its body, with the rules themselves for its references. -/
theorem parser_eq (h : Productive rules) (r : ι) (cursor : Cursor) :
    rules.parser r cursor = rules.body rules.parser r cursor := by
  have hdeeper : rules.parser r cursor =
      rules.unfold (cursor.remaining.length + 1) r cursor :=
    h.unfold_eq_of_lt (Nat.lt_succ_self _) (h.lt_depthFor _)
  rw [hdeeper]
  apply h.body_congr _ _ (h.conserving_unfold _)
  intro name place hlt
  exact h.unfold_eq_of_lt (h.lt_depthFor _) hlt

/-- Rules are read to an end when their bodies are, for references that are where less input
remains. -/
theorem terminating_rule (h : Productive rules)
    (hbody : ∀ cursor, (∀ r place, place.remaining.length < cursor.remaining.length →
        rules.parser r place ≠ .fault .diverged) →
      ∀ r, rules.body rules.parser r cursor ≠ .fault .diverged) (r : ι) :
    Terminating (rules.parser r) := by
  intro cursor
  induction hlength : cursor.remaining.length using Nat.strongRecOn generalizing cursor r with
  | ind length ih =>
      subst hlength
      rw [h.parser_eq]
      exact hbody cursor (fun name place hlt => ih _ hlt name place rfl) r

end Productive

end ParserCombinators.Rules
