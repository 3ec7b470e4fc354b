import ParserCombinators.Failure

/-!
# Replies

A parser replies with a value and the cursor behind what it consumed, with a failure, or with a
fault.  `handle` is the only way a combinator looks at a reply: it goes on after a match, may turn
a failure into something else, and always passes a fault on.
-/

namespace ParserCombinators

/-- What running a parser at a cursor gives. -/
inductive Reply (α : Type) where
  | matched (value : α) (rest : Cursor)
  | failed (failure : Failure)
  | fault (cause : Fault)
  deriving DecidableEq, Repr

namespace Reply

variable {α β γ : Type}

/-- Goes on with `onMatch` after a match and with `onFail` after a failure. -/
def handle (reply : Reply α) (onMatch : α → Cursor → Reply β) (onFail : Failure → Reply β) :
    Reply β :=
  match reply with
  | .matched value rest => onMatch value rest
  | .failed failure => onFail failure
  | .fault cause => .fault cause

/-- Goes on after a match; a failure stands. -/
def andThen (reply : Reply α) (onMatch : α → Cursor → Reply β) : Reply β :=
  reply.handle onMatch .failed

/-- Goes on after a failure; a match stands. -/
def recover (reply : Reply α) (onFail : Failure → Reply α) : Reply α :=
  reply.handle .matched onFail

/-- Changes the value of a match. -/
protected def map (f : α → β) (reply : Reply α) : Reply β :=
  reply.andThen fun value rest => .matched (f value) rest

/-- Fails at `cursor` for a reason of the library's own. -/
def mismatch (cursor : Cursor) (reason : Mismatch) : Reply α :=
  .failed ⟨cursor, reason.message⟩

/-- Uses the result of a checked move; a move that is a fault is the reply. -/
def afterMove (move : Except Fault γ) (next : γ → Reply α) : Reply α :=
  match move with
  | .ok result => next result
  | .error cause => .fault cause

section Equations

variable (value : α) (rest : Cursor) (failure : Failure) (cause : Fault)

@[simp] theorem handle_matched (onMatch : α → Cursor → Reply β) (onFail : Failure → Reply β) :
    (matched value rest).handle onMatch onFail = onMatch value rest := rfl

@[simp] theorem handle_failed (onMatch : α → Cursor → Reply β) (onFail : Failure → Reply β) :
    (failed failure).handle onMatch onFail = onFail failure := rfl

@[simp] theorem handle_fault (onMatch : α → Cursor → Reply β) (onFail : Failure → Reply β) :
    (fault cause).handle onMatch onFail = fault cause := rfl

@[simp] theorem andThen_matched (onMatch : α → Cursor → Reply β) :
    (matched value rest).andThen onMatch = onMatch value rest := rfl

@[simp] theorem andThen_failed (onMatch : α → Cursor → Reply β) :
    (failed failure).andThen onMatch = failed failure := rfl

@[simp] theorem andThen_fault (onMatch : α → Cursor → Reply β) :
    (fault cause).andThen onMatch = fault cause := rfl

@[simp] theorem recover_matched (onFail : Failure → Reply α) :
    (matched value rest).recover onFail = matched value rest := rfl

@[simp] theorem recover_failed (onFail : Failure → Reply α) :
    (failed failure).recover onFail = onFail failure := rfl

@[simp] theorem recover_fault (onFail : Failure → Reply α) :
    (fault cause : Reply α).recover onFail = fault cause := rfl

@[simp] theorem map_matched (f : α → β) :
    (matched value rest).map f = matched (f value) rest := rfl

@[simp] theorem map_failed (f : α → β) : (failed failure).map f = failed failure := rfl

@[simp] theorem map_fault (f : α → β) : (fault cause).map f = fault cause := rfl

@[simp] theorem afterMove_ok (result : γ) (next : γ → Reply α) :
    afterMove (.ok result) next = next result := rfl

@[simp] theorem afterMove_error (next : γ → Reply α) :
    afterMove (.error cause) next = fault cause := rfl

end Equations

/-- What goes on after a match matters only for the match that there is. -/
theorem andThen_congr {reply : Reply α} {first second : α → Cursor → Reply β}
    (h : ∀ value rest, reply = .matched value rest → first value rest = second value rest) :
    reply.andThen first = reply.andThen second := by
  cases reply with
  | matched value rest => exact h value rest rfl
  | failed failure => rfl
  | fault cause => rfl

/-- So it does for a combinator that goes on after a failure as well. -/
theorem handle_congr {reply : Reply α} {first second : α → Cursor → Reply β}
    {onFail : Failure → Reply β}
    (h : ∀ value rest, reply = .matched value rest → first value rest = second value rest) :
    reply.handle first onFail = reply.handle second onFail := by
  cases reply with
  | matched value rest => exact h value rest rfl
  | failed failure => rfl
  | fault cause => rfl

/-! ### Laws -/

@[simp] theorem map_id' (reply : Reply α) : (reply.map fun value => value) = reply := by
  cases reply <;> rfl

@[simp] theorem map_map (f : α → β) (g : β → γ) (reply : Reply α) :
    (reply.map f).map g = reply.map fun value => g (f value) := by
  cases reply <;> rfl

theorem map_andThen (reply : Reply α) (next : α → Cursor → Reply β) (g : β → γ) :
    (reply.andThen next).map g = reply.andThen fun value rest => (next value rest).map g := by
  cases reply <;> rfl

theorem andThen_map (reply : Reply α) (f : α → β) (next : β → Cursor → Reply γ) :
    (reply.map f).andThen next = reply.andThen fun value rest => next (f value) rest := by
  cases reply <;> rfl

theorem andThen_andThen (reply : Reply α) (next : α → Cursor → Reply β)
    (last : β → Cursor → Reply γ) :
    (reply.andThen next).andThen last =
      reply.andThen fun value rest => (next value rest).andThen last := by
  cases reply <;> rfl

theorem andThen_eq_matched_iff {reply : Reply α} {onMatch : α → Cursor → Reply β} {value : β}
    {rest : Cursor} :
    reply.andThen onMatch = .matched value rest ↔
      ∃ first middle, reply = .matched first middle ∧
        onMatch first middle = .matched value rest := by
  constructor
  · intro h
    cases reply with
    | matched first middle => exact ⟨first, middle, rfl, h⟩
    | failed failure => simp at h
    | fault cause => simp at h
  · rintro ⟨first, middle, rfl, h⟩
    exact h

theorem handle_eq_matched_iff {reply : Reply α} {onMatch : α → Cursor → Reply β}
    {onFail : Failure → Reply β} {value : β} {rest : Cursor} :
    reply.handle onMatch onFail = .matched value rest ↔
      (∃ first middle, reply = .matched first middle ∧
        onMatch first middle = .matched value rest) ∨
      ∃ failure, reply = .failed failure ∧ onFail failure = .matched value rest := by
  constructor
  · intro h
    cases reply with
    | matched first middle => exact .inl ⟨first, middle, rfl, h⟩
    | failed failure => exact .inr ⟨failure, rfl, h⟩
    | fault cause => simp at h
  · rintro (⟨first, middle, rfl, h⟩ | ⟨failure, rfl, h⟩)
    · exact h
    · exact h

theorem handle_eq_fault_iff {reply : Reply α} {onMatch : α → Cursor → Reply β}
    {onFail : Failure → Reply β} {cause : Fault} :
    reply.handle onMatch onFail = .fault cause ↔
      reply = .fault cause ∨
      (∃ value rest, reply = .matched value rest ∧ onMatch value rest = .fault cause) ∨
      ∃ failure, reply = .failed failure ∧ onFail failure = .fault cause := by
  constructor
  · intro h
    cases reply with
    | matched value rest => exact .inr (.inl ⟨value, rest, rfl, h⟩)
    | failed failure => exact .inr (.inr ⟨failure, rfl, h⟩)
    | fault first => exact .inl (by rw [handle_fault] at h; rw [fault.inj h])
  · rintro (rfl | ⟨value, rest, rfl, h⟩ | ⟨failure, rfl, h⟩)
    · rfl
    · exact h
    · exact h

theorem map_eq_matched_iff {reply : Reply α} {f : α → β} {value : β} {rest : Cursor} :
    reply.map f = .matched value rest ↔ ∃ first, reply = .matched first rest ∧ f first = value := by
  constructor
  · intro h
    obtain ⟨first, middle, hfirst, hvalue⟩ := andThen_eq_matched_iff.mp h
    cases hvalue
    exact ⟨first, hfirst, rfl⟩
  · rintro ⟨first, rfl, rfl⟩
    rfl

theorem map_eq_failed_iff {reply : Reply α} {f : α → β} {failure : Failure} :
    reply.map f = .failed failure ↔ reply = .failed failure := by
  cases reply <;> simp

theorem map_eq_fault_iff {reply : Reply α} {f : α → β} {cause : Fault} :
    reply.map f = .fault cause ↔ reply = .fault cause := by
  cases reply <;> simp

end Reply

end ParserCombinators
