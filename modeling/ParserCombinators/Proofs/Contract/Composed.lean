import ParserCombinators.Composed
import ParserCombinators.Proofs.Contract.Combinators

/-!
# Contracts of composed parsers

A contract that the rules written by hand keep is kept by everything that is composed of them
(`Composed.keptBy_of_keep`).  This is the one induction over all parsers that can be built; a law of
all parsers is a contract.

A region throws away where its inner parser ended and moves its failure, so the rules inside a region
may keep a weaker contract, as long as it allows no other faults (`Given.Keep`).  `Composed.keptBy`
is the case where they keep the same contract up to the places of their failures.
-/

namespace ParserCombinators

/-- A rule that keeps a contract keeps it inside a region as well. -/
theorem Contract.KeptBy.anywhere {α : Type} {contract : Contract} {p : Parser α}
    (hp : contract.KeptBy p) : contract.anywhere.KeptBy p := by
  intro cursor
  have hallows := hp cursor
  cases h : p cursor with
  | matched value rest => rwa [h] at hallows
  | failed failure => trivial
  | fault cause => rwa [h] at hallows

/-- The rules written by hand keep a contract.  Those inside a region may keep a weaker one, as long
as it allows no other faults. -/
structure Given.Keep (outside inside : Given) (contract inner : Contract) : Prop where
  outside : ∀ (β : Type) (q : Parser β), outside β q → contract.KeptBy q
  inside : ∀ (β : Type) (q : Parser β), inside β q → inner.KeptBy q
  weaker : ∀ (β : Type) (q : Parser β), contract.KeptBy q → inner.KeptBy q
  faults : ∀ cause, inner.faults cause → contract.faults cause

namespace Given.Keep

variable {outside inside : Given} {contract inner : Contract}

/-- Inside a region the inner rules are the only ones, and so is their contract. -/
theorem region (h : Keep outside inside contract inner) : Keep inside inside inner inner where
  outside := h.inside
  inside := h.inside
  weaker _ _ hq := hq
  faults _ hfault := hfault

theorem withReferences (h : Keep outside inside contract inner) {ι : Type} {τ : ι → Type}
    {env : ∀ r, Parser (τ r)} (henv : ∀ r, contract.KeptBy (env r)) :
    Keep (outside.withReferences env) (inside.withReferences env) contract inner where
  outside := by
    rintro β q (hq | ⟨r, heq⟩)
    · exact h.outside β q hq
    · cases heq
      exact henv r
  inside := by
    rintro β q (hq | ⟨r, heq⟩)
    · exact h.inside β q hq
    · cases heq
      exact h.weaker _ _ (henv r)
  weaker := h.weaker
  faults := h.faults

end Given.Keep

theorem Composed.keptBy_of_keep {outside inside : Given} {α : Type} {p : Parser α}
    (hp : Composed outside inside p) {contract inner : Contract}
    (h : Given.Keep outside inside contract inner) : contract.KeptBy p := by
  induction hp generalizing contract with
  | given hgiven => exact h.outside _ _ hgiven
  | char expected => exact contract.keptBy_char expected
  | satisfy wanted => exact contract.keptBy_satisfy wanted
  | endOfInput => exact contract.keptBy_endOfInput
  | literal expected => exact contract.keptBy_literal expected
  | scan accepts => exact contract.keptBy_scan accepts
  | takeWhile1 wanted => exact contract.keptBy_takeWhile1 wanted
  | integer => exact contract.keptBy_integer
  | map f _ ih => exact (ih h).map f
  | bind _ _ ih ihnext => exact (ih h).bind fun value => ihnext value h
  | filter wanted _ ih => exact (ih h).filter wanted
  | pair _ _ ihfirst ihsecond => exact (ihfirst h).pair (ihsecond h)
  | between _ _ _ ihopening ihbody ihclosing =>
      exact (ihopening h).between (ihbody h) (ihclosing h)
  | orElse _ _ ihfirst ihsecond => exact (ihfirst h).orElse (ihsecond h)
  | choice _ ih => exact Contract.KeptBy.choice fun p hp => ih p hp h
  | optional _ ih => exact (ih h).optional
  | many1Within rounds _ ih => exact (ih h).many1Within rounds
  | sepBy1Within trailing rounds _ _ ihitem ihseparator =>
      exact (ihitem h).sepBy1Within (ihseparator h) trailing rounds
  | upToText delimiter skip _ ih => exact (ih h.region).upToText h.faults delimiter skip
  | upTo _ _ ih ihlimit => exact (ih h.region).upTo h.faults (ihlimit h)
  | tokensWhileWithin accepts operators rounds _ ih =>
      exact (ih h).tokensWhileWithin accepts operators rounds
  | climbWithin operators least depth _ ih => exact (ih h).climbWithin operators least depth
  | groupWithin operators depth levels _ _ _ ihoperand ihopening ihclosing =>
      exact (ihoperand h).groupWithin (ihopening h) (ihclosing h) operators depth levels
  | recursive rules depth r _ ih =>
      intro cursor
      refine Contract.keptBy_unfold (fun env henv r => ?_) _ r cursor
      exact ih env r (h.withReferences henv)

theorem Composed.keptBy {outside inside : Given} {α : Type} {p : Parser α}
    (hp : Composed outside inside p) {contract : Contract}
    (houtside : ∀ (β : Type) (q : Parser β), outside β q → contract.KeptBy q)
    (hinside : ∀ (β : Type) (q : Parser β), inside β q → contract.anywhere.KeptBy q) :
    contract.KeptBy p :=
  hp.keptBy_of_keep ⟨houtside, hinside, fun _ _ hq => hq.anywhere, fun _ hfault => hfault⟩

end ParserCombinators
