import ParserCombinators.Parser.Number

/-!
# Contracts of parsers

A contract says where the replies of a parser may lie: where a match may end, where a failure may
point, and which faults may occur.  Contracts differ in how much they ask for.  The law of
conservation, for instance, asks of a match to end at a place that is reached from where the parser
started, and of failures and faults nothing.

* `Reply.Satisfies` is a postcondition with one part for each way in which a reply can end, and
  `Satisfies.handle` is the rule for the one operation that looks at a reply;
* `Contract.Allows` is the postcondition of a contract for a parser that starts at a given cursor,
  and `Contract.KeptBy` asks it of a parser everywhere;
* the parsers of single characters and of runs keep every contract.

The last point rests on the byte offsets that these parsers compute being the lengths of front
parts of the remaining input (`scanBytes_eq`, `spanBytes_eq`), so that every checked
move succeeds.
-/

namespace ParserCombinators

variable {α β γ : Type}

/-! ## Postconditions of replies -/

namespace Reply

/-- The reply meets the condition for the way in which it ends. -/
def Satisfies (onMatch : α → Cursor → Prop) (onFail : Failure → Prop) (onFault : Fault → Prop) :
    Reply α → Prop
  | .matched value rest => onMatch value rest
  | .failed failure => onFail failure
  | .fault cause => onFault cause

variable {matches₁ : α → Cursor → Prop} {matches₂ : β → Cursor → Prop}
  {fails₁ fails₂ : Failure → Prop} {faults : Fault → Prop}

theorem Satisfies.handle {reply : Reply α} {onMatch : α → Cursor → Reply β}
    {onFail : Failure → Reply β} (h : reply.Satisfies matches₁ fails₁ faults)
    (hmatch : ∀ value rest, matches₁ value rest →
      (onMatch value rest).Satisfies matches₂ fails₂ faults)
    (hfail : ∀ failure, fails₁ failure → (onFail failure).Satisfies matches₂ fails₂ faults) :
    (reply.handle onMatch onFail).Satisfies matches₂ fails₂ faults := by
  cases reply with
  | matched value rest => exact hmatch value rest h
  | failed failure => exact hfail failure h
  | fault cause => exact h

theorem Satisfies.andThen {reply : Reply α} {onMatch : α → Cursor → Reply β}
    (h : reply.Satisfies matches₁ fails₁ faults)
    (hmatch : ∀ value rest, matches₁ value rest →
      (onMatch value rest).Satisfies matches₂ fails₁ faults) :
    (reply.andThen onMatch).Satisfies matches₂ fails₁ faults :=
  h.handle hmatch fun _ hfail => hfail

end Reply

/-! ## Contracts -/

/-- What a match has consumed is exactly what lies between its start and its end. -/
def Conserving (p : Parser α) : Prop :=
  ∀ cursor value rest, p cursor = .matched value rest → cursor.Reaches rest

/-- Where a match may end and where a failure may point, seen from where the parser starts, and which
faults may occur.  A match may end wherever consuming input leads to, what is allowed from an end of
a match is allowed from its start, and to run out of a bound is always allowed. -/
structure Contract where
  endsAt : Cursor → Cursor → Prop
  failsAt : Cursor → Cursor → Prop
  faults : Fault → Prop
  endsAt_of_reaches : ∀ {start rest : Cursor}, start.Reaches rest → endsAt start rest
  endsAt_trans : ∀ {start middle rest : Cursor},
    endsAt start middle → endsAt middle rest → endsAt start rest
  failsAt_refl : ∀ place, failsAt place place
  failsAt_of_endsAt : ∀ {start middle place : Cursor},
    endsAt start middle → failsAt middle place → failsAt start place
  faults_diverged : faults .diverged

namespace Contract

/-- The contract of rules that may end and fail anywhere, over any text, with the given faults. -/
def onlyFaults (faults : Fault → Prop) (diverged : faults .diverged) : Contract where
  endsAt _ _ := True
  failsAt _ _ := True
  faults := faults
  endsAt_of_reaches _ := trivial
  endsAt_trans _ _ := trivial
  failsAt_refl _ := trivial
  failsAt_of_endsAt _ _ := trivial
  faults_diverged := diverged

/-- The same contract for a rule whose failures are looked at for their message only. -/
def anywhere (contract : Contract) : Contract where
  endsAt := contract.endsAt
  failsAt _ _ := True
  faults := contract.faults
  endsAt_of_reaches := contract.endsAt_of_reaches
  endsAt_trans := contract.endsAt_trans
  failsAt_refl _ := trivial
  failsAt_of_endsAt _ _ := trivial
  faults_diverged := contract.faults_diverged

/-- The contract allows the reply to a parser that started at a cursor. -/
def Allows (contract : Contract) (start : Cursor) (reply : Reply α) : Prop :=
  reply.Satisfies (fun _ rest => contract.endsAt start rest)
    (fun failure => contract.failsAt start failure.cursor) contract.faults

/-- The contract allows all replies of the parser. -/
def KeptBy (contract : Contract) (p : Parser α) : Prop :=
  ∀ cursor, contract.Allows cursor (p cursor)

variable {contract : Contract} {start middle : Cursor}

@[simp] theorem allows_matched (value : α) (rest : Cursor) :
    contract.Allows start (.matched value rest) ↔ contract.endsAt start rest := Iff.rfl

@[simp] theorem allows_failed (failure : Failure) :
    contract.Allows start (.failed failure : Reply α) ↔ contract.failsAt start failure.cursor :=
  Iff.rfl

@[simp] theorem allows_fault (cause : Fault) :
    contract.Allows start (.fault cause : Reply α) ↔ contract.faults cause := Iff.rfl

theorem allows_diverged : contract.Allows start (.fault .diverged : Reply α) :=
  contract.faults_diverged

theorem allows_mismatch (reason : Mismatch) :
    contract.Allows start (.mismatch start reason : Reply α) :=
  contract.failsAt_refl start

theorem endsAt_refl (contract : Contract) (place : Cursor) : contract.endsAt place place :=
  contract.endsAt_of_reaches (.refl place)

/-- What is allowed from the end of a match is allowed from its start. -/
theorem Allows.of_endsAt {reply : Reply α} (h : contract.Allows middle reply)
    (hends : contract.endsAt start middle) : contract.Allows start reply := by
  cases reply with
  | matched value rest => exact contract.endsAt_trans hends h
  | failed failure => exact contract.failsAt_of_endsAt hends h
  | fault cause => exact h

/-- A parser that goes on after a match starts where the match ended. -/
theorem Allows.andThen {reply : Reply α} {onMatch : α → Cursor → Reply β}
    (h : contract.Allows start reply)
    (hnext : ∀ value rest, contract.endsAt start rest → contract.Allows rest (onMatch value rest)) :
    contract.Allows start (reply.andThen onMatch) :=
  Reply.Satisfies.andThen h fun value rest hrest => (hnext value rest hrest).of_endsAt hrest

theorem Allows.recover {reply : Reply α} {onFail : Failure → Reply α}
    (h : contract.Allows start reply)
    (hfail : ∀ failure, contract.failsAt start failure.cursor →
      contract.Allows start (onFail failure)) :
    contract.Allows start (reply.recover onFail) :=
  Reply.Satisfies.handle h (fun _ _ hrest => hrest) hfail

theorem Allows.map {reply : Reply α} (h : contract.Allows start reply) (f : α → β) :
    contract.Allows start (reply.map f) :=
  h.andThen fun _ rest _ => contract.endsAt_refl rest

/-- The contract that asks for conservation and nothing else. -/
def conservation : Contract where
  endsAt start rest := start.Reaches rest
  failsAt _ _ := True
  faults _ := True
  endsAt_of_reaches h := h
  endsAt_trans := .trans
  failsAt_refl _ := trivial
  failsAt_of_endsAt _ _ := trivial
  faults_diverged := trivial

theorem keptBy_conservation {p : Parser α} (hp : Conserving p) : conservation.KeptBy p := by
  intro cursor
  cases h : p cursor with
  | matched value rest => exact hp cursor value rest h
  | failed failure => trivial
  | fault cause => trivial

theorem KeptBy.conserving {p : Parser α} (hp : conservation.KeptBy p) : Conserving p := by
  intro cursor value rest h
  have hallows := hp cursor
  rwa [h, allows_matched] at hallows

/-! ## Characters and runs -/

open ParserCombinators.Parser

theorem allows_past {p : Parser α} {cursor : Cursor} {value : α} {text : Text}
    (htext : text <+: cursor.remaining) (h : p cursor = .matched value (cursor.past text)) :
    contract.Allows cursor (p cursor) := by
  rw [h, allows_matched]
  exact contract.endsAt_of_reaches (Cursor.reaches_past htext)

theorem keptBy_char (expected : Char) : contract.KeptBy (char expected) := by
  intro cursor
  by_cases h : cursor.peek = some expected
  · exact allows_past (List.singleton_prefix_iff_head?_eq_some.mpr h) (char_of_peek h)
  · unfold char
    split
    · exact allows_mismatch _
    · next found hfound =>
        rw [if_neg (by rintro rfl; exact h hfound)]
        exact allows_mismatch _

theorem keptBy_satisfy (wanted : Char → Bool) : contract.KeptBy (satisfy wanted) := by
  intro cursor
  cases h : cursor.peek with
  | none => simpa [satisfy, h] using allows_mismatch _
  | some found =>
      by_cases hwanted : wanted found = true
      · exact allows_past (List.singleton_prefix_iff_head?_eq_some.mpr h)
          (satisfy_of_peek h hwanted)
      · simpa [satisfy, h, hwanted] using allows_mismatch _

theorem keptBy_endOfInput : contract.KeptBy endOfInput := by
  intro cursor
  unfold endOfInput
  split
  · exact contract.endsAt_refl cursor
  · exact allows_mismatch _

theorem keptBy_literal (expected : Text) : contract.KeptBy (literal expected) := by
  intro cursor
  by_cases h : expected <+: cursor.remaining
  · exact allows_past h (literal_of_isPrefix h)
  · obtain ⟨reason, hother⟩ := literal_of_other h
    rw [hother]
    exact allows_mismatch reason

theorem keptBy_scan (accepts : Text → Bool) : contract.KeptBy (scan accepts) := by
  intro cursor
  by_cases h : accepts [] = true
  · exact allows_past (scanned_isPrefix _ _ _) (scan_eq h cursor)
  · rw [scan, if_neg h]
    exact allows_mismatch _

theorem keptBy_takeWhile1 (wanted : Char → Bool) : contract.KeptBy (takeWhile1 wanted) := by
  intro cursor
  by_cases h : cursor.remaining.takeWhile wanted = []
  · obtain ⟨reason, hother⟩ := takeWhile1_of_nil h
    rw [hother]
    exact allows_mismatch reason
  · exact allows_past (List.takeWhile_prefix _) (takeWhile1_eq h)

theorem keptBy_integer : contract.KeptBy integer := by
  intro cursor
  -- too large a number fails where it starts, not behind its digits
  apply Reply.Satisfies.andThen (keptBy_takeWhile1 _ cursor)
  intro digits rest hrest
  split
  · exact hrest
  · exact allows_mismatch _

theorem conserving_integer : Conserving integer := conservation.keptBy_integer.conserving

end Contract

end ParserCombinators
