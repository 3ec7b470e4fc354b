import ParserCombinators.Parser.Recursion
import ParserCombinators.Parser.Region
import ParserCombinators.Parser.Repeat
import ParserCombinators.Expression.Climb
import ParserCombinators.Expression.Tokens
import ParserCombinators.Proofs.Contract.Basic

/-!
# Combinators keep contracts

One lemma for each combinator: what it builds keeps a contract when its parts do.  Three families
need more than the rules for replies.

* **Alternatives** join failures, and the joined one points to where the alternatives started or to
  where one of them failed (`Failure.cursor_join`).
* **Regions** run their inner parser on another text.  Where it ended is thrown away and its failure
  is moved back, so of the inner parser only the faults matter: it may keep any contract at all that
  allows no more of them.  The new place of a failure is behind a front part of the region,
  whatever text the inner failure points into (`consumedAt_isPrefix`).
* **Repetitions, expressions and recursive rules** are inductions on their bound.  To run out of it
  is allowed by every contract.
-/

namespace ParserCombinators

variable {α β γ : Type}

namespace Contract

open ParserCombinators.Parser

variable {contract inner : Contract}

/-! ## Sequences -/

theorem KeptBy.map {p : Parser α} (hp : contract.KeptBy p) (f : α → β) :
    contract.KeptBy (p.map f) :=
  fun cursor => (hp cursor).map f

theorem KeptBy.bind {p : Parser α} {next : α → Parser β} (hp : contract.KeptBy p)
    (hnext : ∀ value, contract.KeptBy (next value)) : contract.KeptBy (p.bind next) :=
  fun cursor => (hp cursor).andThen fun value rest _ => hnext value rest

theorem KeptBy.filter {p : Parser α} (hp : contract.KeptBy p) (wanted : α → Bool) :
    contract.KeptBy (p.filter wanted) := by
  intro cursor
  apply Reply.Satisfies.andThen (hp cursor)
  intro value rest hrest
  split
  · exact hrest
  · exact allows_mismatch _

theorem KeptBy.pair {first : Parser α} {second : Parser β} (hfirst : contract.KeptBy first)
    (hsecond : contract.KeptBy second) : contract.KeptBy (first.pair second) :=
  fun cursor => (hfirst cursor).andThen fun left middle _ => (hsecond middle).map (left, ·)

theorem KeptBy.between {opening : Parser α} {body : Parser β} {closing : Parser γ}
    (hopening : contract.KeptBy opening) (hbody : contract.KeptBy body)
    (hclosing : contract.KeptBy closing) :
    contract.KeptBy (Parser.between opening body closing) :=
  fun cursor => (hopening cursor).andThen fun left inside _ =>
    (hbody inside).andThen fun middle behind _ => (hclosing behind).map (left, middle, ·)

theorem KeptBy.keepLeft {first : Parser α} {second : Parser β} (hfirst : contract.KeptBy first)
    (hsecond : contract.KeptBy second) : contract.KeptBy (first.keepLeft second) :=
  (hfirst.pair hsecond).map Prod.fst

theorem KeptBy.keepRight {first : Parser α} {second : Parser β} (hfirst : contract.KeptBy first)
    (hsecond : contract.KeptBy second) : contract.KeptBy (first.keepRight second) :=
  (hfirst.pair hsecond).map Prod.snd

theorem KeptBy.spaced {p : Parser α} (hp : contract.KeptBy p) : contract.KeptBy p.spaced := by
  have hblanks : contract.KeptBy skipSpaces := contract.keptBy_scan _
  exact (hblanks.keepRight hp).keepLeft hblanks

/-! ## Alternatives -/

theorem failsAt_join {start : Cursor} {failures : List Failure}
    (h : ∀ failure ∈ failures, contract.failsAt start failure.cursor) :
    contract.failsAt start (Failure.join start failures).cursor := by
  rcases Failure.cursor_join start failures with hstart | ⟨failure, hmem, hfailure⟩
  · rw [hstart]
    exact contract.failsAt_refl start
  · rw [hfailure]
    exact h failure hmem

theorem KeptBy.orElse {first second : Parser α} (hfirst : contract.KeptBy first)
    (hsecond : contract.KeptBy second) : contract.KeptBy (first.orElse second) := by
  intro cursor
  refine (hfirst cursor).recover fun left hleft => (hsecond cursor).recover fun right hright => ?_
  exact failsAt_join (by simp [hleft, hright])

theorem allows_choiceAfter {alternatives : List (Parser α)}
    (halternatives : ∀ p ∈ alternatives, contract.KeptBy p) {cursor : Cursor}
    {failures : List Failure} (hfailures : ∀ f ∈ failures, contract.failsAt cursor f.cursor) :
    contract.Allows cursor (choiceAfter failures alternatives cursor) := by
  induction alternatives generalizing failures with
  | nil =>
      unfold choiceAfter
      split
      · exact allows_mismatch _
      · exact failsAt_join hfailures
  | cons p others ih =>
      have hp : contract.KeptBy p := halternatives p List.mem_cons_self
      refine (hp cursor).recover fun failure hfailure => ih ?_ ?_
      · exact fun q hq => halternatives q (List.mem_cons_of_mem _ hq)
      · intro f hf
        rcases List.mem_append.mp hf with hf | hf
        · exact hfailures f hf
        · rwa [List.mem_singleton.mp hf]

theorem KeptBy.choice {alternatives : List (Parser α)}
    (halternatives : ∀ p ∈ alternatives, contract.KeptBy p) :
    contract.KeptBy (Parser.choice alternatives) :=
  fun _ => allows_choiceAfter halternatives (by simp)

theorem KeptBy.optional {p : Parser α} (hp : contract.KeptBy p) : contract.KeptBy p.optional :=
  fun cursor => Reply.Satisfies.handle (hp cursor) (fun _ _ hrest => hrest)
    fun _ _ => contract.endsAt_refl cursor

/-! ## Repetition -/

theorem KeptBy.moreValues {p : Parser α} (hp : contract.KeptBy p) (rounds : Nat) :
    contract.KeptBy (moreValues p rounds) := by
  induction rounds with
  | zero => exact fun _ => allows_diverged
  | succ rounds ih =>
      intro cursor
      refine Reply.Satisfies.handle (hp cursor) (fun value rest hrest => ?_)
        fun _ _ => contract.endsAt_refl cursor
      split
      · exact hrest
      · exact ((ih rest).map _).of_endsAt hrest

theorem KeptBy.many1Within {p : Parser α} (hp : contract.KeptBy p) (rounds : Text → Nat) :
    contract.KeptBy (p.many1Within rounds) := by
  intro cursor
  apply (hp cursor).andThen
  intro value rest _
  split
  · exact contract.endsAt_refl rest
  · exact (hp.moreValues _ rest).map _

theorem KeptBy.moreItems {item : Parser α} {separator : Parser β} (hitem : contract.KeptBy item)
    (hseparator : contract.KeptBy separator) (trailing : Bool) (rounds : Nat) :
    contract.KeptBy (moreItems item separator trailing rounds) := by
  induction rounds with
  | zero => exact fun _ => allows_diverged
  | succ rounds ih =>
      intro cursor
      refine Reply.Satisfies.handle (hseparator cursor) (fun _ behind hbehind => ?_)
        fun _ _ => contract.endsAt_refl cursor
      refine Reply.Satisfies.handle (hitem behind) (fun value rest hrest => ?_) fun _ _ => ?_
      · split
        · exact contract.endsAt_refl cursor
        · exact ((ih rest).map _).of_endsAt (contract.endsAt_trans hbehind hrest)
      · cases trailing
        · exact contract.endsAt_refl cursor
        · exact hbehind

theorem KeptBy.sepBy1Within {item : Parser α} {separator : Parser β}
    (hitem : contract.KeptBy item) (hseparator : contract.KeptBy separator) (trailing : Bool)
    (rounds : Text → Nat) :
    contract.KeptBy (item.sepBy1Within separator trailing rounds) :=
  fun cursor => (hitem cursor).andThen fun _ rest _ =>
    (hitem.moreItems hseparator trailing _ rest).map _

/-! ## Regions -/

/-- A region is read without moving, and a failure inside it is reported inside it. -/
theorem allows_inRegion {p : Parser α} (hp : inner.KeptBy p)
    (hfaults : ∀ cause, inner.faults cause → contract.faults cause) {region : Text}
    {outer : Cursor} (hregion : region <+: outer.remaining) :
    (inRegion p region outer).Satisfies (fun _ rest => rest = outer)
      (fun failure => contract.failsAt outer failure.cursor) contract.faults := by
  rw [inRegion_eq hregion]
  have hallows := hp (.ofText region)
  unfold parse
  cases hreply : p (.ofText region) with
  | matched value rest => exact rfl
  | failed failure =>
      have hplace : consumedAt region failure <+: outer.remaining :=
        (consumedAt_isPrefix region failure).trans hregion
      exact contract.failsAt_of_endsAt (contract.endsAt_of_reaches (Cursor.reaches_past hplace))
        (contract.failsAt_refl _)
  | fault cause =>
      rw [hreply] at hallows
      exact hfaults cause hallows

theorem KeptBy.upToText {p : Parser α} (hp : inner.KeptBy p)
    (hfaults : ∀ cause, inner.faults cause → contract.faults cause) (delimiter : Text)
    (skip : Bool) : contract.KeptBy (p.upToText delimiter skip) := by
  intro cursor
  unfold Parser.upToText
  cases hfind : Text.find? delimiter cursor.remaining with
  | none => exact allows_mismatch _
  | some offset =>
      obtain ⟨region, hbefore, hoffset⟩ := Text.find?_eq_some_iff.mp hfind
      have hregion : region <+: cursor.remaining := hbefore.isPrefix
      have hdelimiter : delimiter <+: (cursor.past region).remaining :=
        Cursor.isPrefix_past hbefore.occurs
      simp only [← hoffset, Cursor.ahead_of_isPrefix hregion, Reply.afterMove_ok]
      apply Reply.Satisfies.andThen (allows_inRegion hp hfaults hregion)
      intro value _ _
      rw [Cursor.advance_eq_past hregion, Reply.afterMove_ok]
      cases skip
      · exact contract.endsAt_of_reaches (Cursor.reaches_past hregion)
      · rw [if_pos rfl, take_of_isPrefix hdelimiter]
        exact contract.endsAt_of_reaches
          ((Cursor.reaches_past hregion).trans (Cursor.reaches_past hdelimiter))

/-- The place that a search finds lies between where the search began and where the match that it
found ends. -/
theorem seek_satisfies {limit : Parser β} (hlimit : contract.KeptBy limit) {origin : Cursor}
    (places : Nat) {cursor : Cursor} (hreach : origin.Reaches cursor) :
    (seek limit origin places cursor).Satisfies
      (fun found rest => origin.Reaches found.1 ∧ contract.endsAt found.1 rest)
      (fun failure => contract.failsAt origin failure.cursor) contract.faults := by
  induction places generalizing cursor with
  | zero => exact contract.faults_diverged
  | succ places ih =>
      refine Reply.Satisfies.handle (hlimit cursor) (fun _ _ hrest => ⟨hreach, hrest⟩) fun _ _ => ?_
      cases hpeek : cursor.peek with
      | none => exact contract.failsAt_refl origin
      | some c =>
          have hnext : [c] <+: cursor.remaining :=
            List.singleton_prefix_iff_head?_eq_some.mpr hpeek
          simp only [Cursor.stepOver_eq_past hpeek, Reply.afterMove_ok]
          exact ih (hreach.trans (Cursor.reaches_past hnext))

theorem KeptBy.upTo {p : Parser α} {limit : Parser β} (hp : inner.KeptBy p)
    (hfaults : ∀ cause, inner.faults cause → contract.faults cause)
    (hlimit : contract.KeptBy limit) : contract.KeptBy (p.upTo limit) := by
  intro cursor
  apply Reply.Satisfies.andThen (seek_satisfies hlimit _ (.refl cursor))
  intro found rest hfound
  obtain ⟨hplace, hrest⟩ := hfound
  obtain ⟨region, hregion, heq⟩ := Cursor.reaches_iff_past.mp hplace
  rw [heq, Cursor.textUpTo_past hregion, Reply.afterMove_ok]
  apply Reply.Satisfies.andThen (allows_inRegion hp hfaults hregion)
  exact fun _ _ _ => contract.endsAt_trans (contract.endsAt_of_reaches hplace) hrest

/-! ## Expressions -/

theorem reaches_past_symbol {accepts : Operator → Bool} {operators : List Operator}
    {cursor : Cursor} {found : Operator}
    (h : Operator.next? accepts operators cursor.remaining = some found) :
    cursor.Reaches (cursor.past found.symbol) :=
  Cursor.reaches_past (Operator.first?_eq_some (Operator.next?_eq_some_iff.mp h).1).2.2

theorem KeptBy.moreTokens {operand : Parser α} (hoperand : contract.KeptBy operand)
    (accepts : Operator → Bool) (operators : List Operator) (rounds : Nat) :
    contract.KeptBy (moreTokens accepts operand operators rounds) := by
  induction rounds with
  | zero => exact fun _ => allows_diverged
  | succ rounds ih =>
      intro cursor
      rw [moreTokens_succ]
      cases h : Operator.next? accepts operators cursor.remaining with
      | none => exact contract.endsAt_refl cursor
      | some found =>
          refine Allows.of_endsAt ?_ (contract.endsAt_of_reaches (reaches_past_symbol h))
          exact (hoperand _).andThen fun _ rest _ => (ih rest).map _

theorem KeptBy.tokensWhileWithin {operand : Parser α} (hoperand : contract.KeptBy operand)
    (accepts : Operator → Bool) (operators : List Operator) (rounds : Text → Nat) :
    contract.KeptBy (operand.tokensWhileWithin accepts operators rounds) :=
  fun cursor => (hoperand cursor).andThen fun _ rest _ =>
    (hoperand.moreTokens accepts operators _ rest).map _

theorem KeptBy.extend {primary : Parser (Tree α)} (hprimary : contract.KeptBy primary)
    (operators : List Operator) (depth : Nat) (least : Int) (left : Tree α) :
    contract.KeptBy (primary.extend operators depth least left) := by
  induction depth generalizing least left with
  | zero => exact fun _ => allows_diverged
  | succ depth ih =>
      intro cursor
      rw [extend_succ]
      cases h : Operator.next? (Operator.atLeast least) operators cursor.remaining with
      | none => exact contract.endsAt_refl cursor
      | some found =>
          refine Allows.of_endsAt ?_ (contract.endsAt_of_reaches (reaches_past_symbol h))
          have hright := (hprimary (cursor.past found.symbol)).andThen fun start inside _ =>
            ih (found.precedence + 1) start inside
          exact hright.andThen fun right rest _ => ih least _ rest

theorem KeptBy.climbWithin {primary : Parser (Tree α)} (hprimary : contract.KeptBy primary)
    (operators : List Operator) (least : Int) (depth : Text → Nat) :
    contract.KeptBy (primary.climbWithin operators least depth) :=
  fun cursor => (hprimary cursor).andThen fun left rest _ =>
    hprimary.extend operators _ least left rest

theorem KeptBy.climb {primary : Parser (Tree α)} (hprimary : contract.KeptBy primary)
    (operators : List Operator) (least : Int) :
    contract.KeptBy (primary.climb operators least) :=
  hprimary.climbWithin operators least _

theorem KeptBy.groupOr {operand : Parser α} {opening : Parser β} {body : Parser (Tree α)}
    {closing : Parser γ} (hoperand : contract.KeptBy operand)
    (hopening : contract.KeptBy opening) (hbody : contract.KeptBy body)
    (hclosing : contract.KeptBy closing) :
    contract.KeptBy (operand.groupOr opening body closing) :=
  ((hopening.between hbody hclosing).map _).orElse (hoperand.map _)

theorem KeptBy.nestedGroup {operand : Parser α} {opening : Parser β} {closing : Parser γ}
    (hoperand : contract.KeptBy operand) (hopening : contract.KeptBy opening)
    (hclosing : contract.KeptBy closing) (operators : List Operator) (depth : Text → Nat)
    (levels : Nat) : contract.KeptBy (operand.nestedGroup opening closing operators depth levels) := by
  induction levels with
  | zero => exact fun _ => allows_diverged
  | succ levels ih =>
      have hbody := ih.climbWithin operators 0 depth
      exact fun cursor => hoperand.groupOr hopening hbody hclosing cursor

theorem KeptBy.groupWithin {operand : Parser α} {opening : Parser β} {closing : Parser γ}
    (hoperand : contract.KeptBy operand) (hopening : contract.KeptBy opening)
    (hclosing : contract.KeptBy closing) (operators : List Operator)
    (depth levels : Text → Nat) :
    contract.KeptBy (operand.groupWithin opening closing operators depth levels) :=
  fun cursor => hoperand.nestedGroup hopening hclosing operators depth _ cursor

theorem KeptBy.group {operand : Parser α} {opening : Parser β} {closing : Parser γ}
    (hoperand : contract.KeptBy operand) (hopening : contract.KeptBy opening)
    (hclosing : contract.KeptBy closing) (operators : List Operator) :
    contract.KeptBy (operand.group opening closing operators) :=
  hoperand.groupWithin hopening hclosing operators _ _

/-! ## Recursive rules -/

/-- Rules keep a contract to any depth when their bodies do for all references that keep it. -/
theorem keptBy_unfold {ι : Type} {τ : ι → Type} {rules : Rules ι τ}
    (hbody : ∀ env : ∀ r, Parser (τ r), (∀ r, contract.KeptBy (env r)) →
      ∀ r, contract.KeptBy (rules.body env r)) (depth : Nat) (r : ι) :
    contract.KeptBy (rules.unfold depth r) := by
  induction depth generalizing r with
  | zero => exact fun _ => allows_diverged
  | succ depth ih => exact fun cursor => hbody (rules.unfold depth) ih r cursor

end Contract

end ParserCombinators
