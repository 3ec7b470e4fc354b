import ParserCombinators.Deferred.Basic

/-!
# A pool of copies of one deferred parser

A pool starts with one deferred parser and grows by copies, of which any may be used at any time.
`Pool.step` is one use of the pool; a run of a pool is a list of such uses.
-/

namespace ParserCombinators.Deferred

/-- Deferred parsers that come from one, the number of the one in use, and the state that their
factory acts on. -/
structure Pool (σ α : Type) where
  members : List (Deferred σ α)
  current : Nat := 0
  state : σ

/-- One use of a pool. -/
inductive Use where
  /-- Asks whether the current member is built. -/
  | isBuilt
  /-- Asks for the parser of the current member. -/
  | get
  /-- Parses the start of a text. -/
  | parse (text : Text)
  /-- Parses a whole text. -/
  | parseComplete (text : Text)
  /-- Adds a copy of the current member and goes on with the copy. -/
  | copy
  /-- Goes on with another member. -/
  | select (member : Nat)
  /-- Asks for the description of the current member. -/
  | describe
  deriving DecidableEq, Repr

/-- What a use of a pool shows, apart from the pool itself. -/
inductive Shown (α : Type) where
  | nothing
  | built (isBuilt : Bool)
  | reply (reply : Reply α)
  | verdict (verdict : Verdict α)
  | description (text : String)

namespace Pool

variable {σ α : Type}

/-- The pool of a single deferred parser. -/
def single (deferred : Deferred σ α) (state : σ) : Pool σ α := { members := [deferred], state }

/-- Shows something of the current member as it is. -/
def lookAtCurrent (pool : Pool σ α) (view : Deferred σ α → Shown α) : Pool σ α × Shown α :=
  match pool.members[pool.current]? with
  | some deferred => (pool, view deferred)
  | none => (pool, .nothing)

@[simp] theorem lookAtCurrent_fst (pool : Pool σ α) (view : Deferred σ α → Shown α) :
    (pool.lookAtCurrent view).1 = pool := by
  unfold lookAtCurrent
  split <;> rfl

/-- Gets the parser of the current member, which is built if it was not. -/
def getCurrent (pool : Pool σ α) : Option (Parser α × Pool σ α) :=
  (pool.members[pool.current]?).map fun deferred =>
    let (parser, member, state) := deferred.get pool.state
    (parser, { pool with members := pool.members.set pool.current member, state })

/-- Gets the parser of the current member and shows something of it. -/
def showCurrent (pool : Pool σ α) (view : Parser α → Shown α) : Pool σ α × Shown α :=
  match pool.getCurrent with
  | some (parser, after) => (after, view parser)
  | none => (pool, .nothing)

/-- One use of the pool. -/
def step (pool : Pool σ α) : Use → Pool σ α × Shown α
  | .isBuilt => pool.lookAtCurrent fun deferred => .built deferred.isBuilt
  | .get => pool.showCurrent fun parser => .description parser.describe
  | .parse text => pool.showCurrent fun parser => .reply (parser.parse text)
  | .parseComplete text => pool.showCurrent fun parser => .verdict (parser.parseComplete text)
  | .copy =>
      match pool.members[pool.current]? with
      | some deferred =>
          ({ pool with members := pool.members ++ [deferred.copy]
                       current := pool.members.length }, .nothing)
      | none => (pool, .nothing)
  | .select member => ({ pool with current := member }, .nothing)
  | .describe => pool.lookAtCurrent fun deferred => .description deferred.describe

/-- The pool after a list of uses. -/
def run (pool : Pool σ α) (uses : List Use) : Pool σ α :=
  uses.foldl (fun pool use => (pool.step use).1) pool

end Pool

end ParserCombinators.Deferred
