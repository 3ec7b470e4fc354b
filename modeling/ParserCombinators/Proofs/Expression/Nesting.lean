import ParserCombinators.Proofs.Expression.Progress

/-!
# Groups without counting their nesting

The body of a group is an expression over the same primaries, and the bound on the nesting of groups
can be removed as the bounds on the loops were: `Parser.group_eq` is the equation that one would write
down for groups without a bound.  An opening that consumes nothing opens another group at the same place
and so on for ever, and then no bound is enough (`nestedGroup_of_stall`).

The step is a congruence.  An expression that starts at a cursor asks its primary only at places
that are reached from there, so two primaries that agree wherever no more input remains give the
same expressions (`climbWithin_congr`).
-/

namespace ParserCombinators.Parser

variable {α β γ : Type} {operators : List Operator}

/-! ## Primaries that agree on what remains -/

theorem extend_congr {first second : Parser (Tree α)} (hfirst : Conserving first) {bound : Nat}
    (hagree : ∀ place, place.remaining.length ≤ bound → first place = second place)
    {depth : Nat} {least : Int} {left : Tree α} {cursor : Cursor}
    (hbound : cursor.remaining.length ≤ bound) :
    first.extend operators depth least left cursor =
      second.extend operators depth least left cursor := by
  induction depth generalizing least left cursor with
  | zero => rfl
  | succ depth ih =>
      rw [extend_succ, extend_succ]
      cases hnext : Operator.next? (Operator.atLeast least) operators cursor.remaining with
      | none => rfl
      | some found =>
          have hpast : (cursor.past found.symbol).remaining.length ≤ bound :=
            Nat.le_trans (Contract.reaches_past_symbol hnext).length_le hbound
          have hright : ((first (cursor.past found.symbol)).andThen fun start inside =>
                first.extend operators depth (found.precedence + 1) start inside) =
              (second (cursor.past found.symbol)).andThen fun start inside =>
                second.extend operators depth (found.precedence + 1) start inside := by
            rw [← hagree _ hpast]
            refine Reply.andThen_congr fun start inside hstart => ih ?_
            exact Nat.le_trans (hfirst _ _ _ hstart).length_le hpast
          simp only [← hright]
          refine Reply.andThen_congr fun right rest hmatch => ih ?_
          obtain ⟨start, inside, hstart, hinside⟩ := Reply.andThen_eq_matched_iff.mp hmatch
          have hle₁ := (hfirst _ _ _ hstart).length_le
          have hle₂ := (conserving_extend hfirst _ _ _ _ _ _ _ hinside).length_le
          omega

theorem climbWithin_congr {first second : Parser (Tree α)} (hfirst : Conserving first)
    {least : Int} {depth : Text → Nat} {cursor : Cursor}
    (hagree : ∀ place, place.remaining.length ≤ cursor.remaining.length →
      first place = second place) :
    first.climbWithin operators least depth cursor =
      second.climbWithin operators least depth cursor := by
  unfold climbWithin
  rw [← hagree cursor (Nat.le_refl _)]
  apply Reply.andThen_congr
  intro start inside hstart
  exact extend_congr hfirst hagree (hfirst _ _ _ hstart).length_le

/-! ## Groups -/

theorem groupOr_congr {operand : Parser α} {opening : Parser β} {closing : Parser γ}
    {first second : Parser (Tree α)} {cursor : Cursor}
    (hagree : ∀ value inside, opening cursor = .matched value inside →
      first inside = second inside) :
    operand.groupOr opening first closing cursor =
      operand.groupOr opening second closing cursor := by
  have hbetween : between opening first closing cursor = between opening second closing cursor := by
    apply Reply.andThen_congr
    intro value inside hopening
    rw [hagree value inside hopening]
  simp only [groupOr, Parser.orElse, Parser.map, hbetween]

variable {operand : Parser α} {opening : Parser β} {closing : Parser γ}

theorem conserving_nestedGroup (hoperand : Conserving operand) (hopening : Conserving opening)
    (hclosing : Conserving closing) (operators : List Operator) (depth : Text → Nat)
    (levels : Nat) : Conserving (operand.nestedGroup opening closing operators depth levels) :=
  ((Contract.keptBy_conservation hoperand).nestedGroup (Contract.keptBy_conservation hopening)
    (Contract.keptBy_conservation hclosing) operators depth levels).conserving

theorem conserving_group (hoperand : Conserving operand) (hopening : Conserving opening)
    (hclosing : Conserving closing) (operators : List Operator) :
    Conserving (operand.group opening closing operators) :=
  fun cursor => conserving_nestedGroup hoperand hopening hclosing operators _ _ cursor

/-- Behind an opening that consumes nothing the body of the group starts with the same group again. -/
theorem nestedGroup_of_stall {cursor : Cursor} {start : β}
    (hstall : opening cursor = .matched start cursor) (depth : Text → Nat) (levels : Nat) :
    operand.nestedGroup opening closing operators depth levels cursor = .fault .diverged := by
  induction levels with
  | zero => rfl
  | succ levels ih =>
      have hbody : climbWithin (operand.nestedGroup opening closing operators depth levels)
          operators 0 depth cursor = .fault .diverged := by
        rw [climbWithin, ih, Reply.andThen_fault]
      have hbetween : between opening
          (climbWithin (operand.nestedGroup opening closing operators depth levels) operators 0
            depth) closing cursor = .fault .diverged := by
        rw [between, hstall, Reply.andThen_matched, hbody, Reply.andThen_fault]
      simp only [nestedGroup, groupOr, Parser.orElse, Parser.map, hbetween, Reply.map_fault]
      rfl

theorem nestedGroup_eq_of_lt (hoperand : Conserving operand) (hopening : Conserving opening)
    (hclosing : Conserving closing) {depth : Text → Nat} {levels larger : Nat} {cursor : Cursor}
    (hlevels : cursor.remaining.length < levels) (hlarger : cursor.remaining.length < larger) :
    operand.nestedGroup opening closing operators depth larger cursor =
      operand.nestedGroup opening closing operators depth levels cursor := by
  induction levels generalizing larger cursor with
  | zero => omega
  | succ levels ih =>
      obtain ⟨larger, rfl⟩ := Nat.exists_eq_succ_of_ne_zero (Nat.ne_zero_of_lt hlarger)
      apply groupOr_congr
      intro start inside hmatch
      have hreach := hopening _ _ _ hmatch
      rcases Nat.lt_or_ge inside.remaining.length cursor.remaining.length with hlt | hge
      · apply climbWithin_congr (conserving_nestedGroup hoperand hopening hclosing _ _ _)
        intro place hle
        exact ih (by omega) (by omega)
      · rw [hreach.eq_of_length_le hge] at hmatch ⊢
        rw [climbWithin, climbWithin, nestedGroup_of_stall hmatch, nestedGroup_of_stall hmatch,
          Reply.andThen_fault, Reply.andThen_fault]

/-- A group or else an operand, without the bound on the nesting of groups. -/
theorem group_eq (hoperand : Conserving operand) (hopening : Conserving opening)
    (hclosing : Conserving closing) (cursor : Cursor) :
    operand.group opening closing operators cursor =
      operand.groupOr opening ((operand.group opening closing operators).climb operators 0)
        closing cursor := by
  have hlarger : operand.group opening closing operators cursor =
      operand.nestedGroup opening closing operators (fun text => text.length + 1)
        (cursor.remaining.length + 1 + 1) cursor :=
    nestedGroup_eq_of_lt hoperand hopening hclosing (by omega) (Nat.lt_succ_self _)
  rw [hlarger]
  apply groupOr_congr
  intro start inside hmatch
  have hle := (hopening _ _ _ hmatch).length_le
  apply climbWithin_congr (conserving_nestedGroup hoperand hopening hclosing _ _ _)
  intro place hplace
  exact nestedGroup_eq_of_lt hoperand hopening hclosing (Nat.lt_succ_self _) (by omega)

end ParserCombinators.Parser
