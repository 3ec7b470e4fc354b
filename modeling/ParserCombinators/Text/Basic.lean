/-!
# Text, its UTF-8 length, and where one text occurs in another

Text is a list of characters, so that reading from the front is recursion on the data.  Places
inside a text are byte offsets in its UTF-8 encoding: an offset is only meaningful on the boundary
between two characters, and `cut?` is the one function that turns an offset into a pair of texts.

The interface is `cut?_eq_some_iff`: cutting at an offset succeeds exactly when some front part of
the text has that many bytes.  An offset that a search finds is the length of what stands before the
first occurrence (`find?_eq_some_iff`), and none is found when there is no occurrence
(`find?_eq_none_iff`).
-/

namespace ParserCombinators

/-- Input, matched text and operator symbols alike: a list of Unicode scalar values. -/
abbrev Text := List Char

namespace Text

/-! ## Length in bytes -/

/-- The number of bytes in the UTF-8 encoding. -/
def byteLength : Text → Nat
  | [] => 0
  | c :: rest => c.utf8Size + byteLength rest

@[simp] theorem byteLength_nil : byteLength [] = 0 := rfl

@[simp] theorem byteLength_cons (c : Char) (rest : Text) :
    byteLength (c :: rest) = c.utf8Size + byteLength rest := rfl

@[simp] theorem byteLength_append (front back : Text) :
    byteLength (front ++ back) = byteLength front + byteLength back := by
  induction front with
  | nil => simp
  | cons c front ih => simp [ih, Nat.add_assoc]

/-- Every character takes at least one byte, so only the empty text has length zero. -/
theorem byteLength_eq_zero_iff {text : Text} : byteLength text = 0 ↔ text = [] := by
  cases text with
  | nil => simp
  | cons c rest =>
      have := c.utf8Size_pos
      simp only [byteLength_cons, reduceCtorEq, iff_false]
      omega

/-! ## Cutting at a byte offset -/

/-- The two parts of a text on either side of a byte offset.  There is no answer when the offset
lies past the end or inside a character. -/
def cut? : Nat → Text → Option (Text × Text)
  | 0, text => some ([], text)
  | _ + 1, [] => none
  | bytes + 1, c :: rest =>
      if c.utf8Size ≤ bytes + 1 then
        (cut? (bytes + 1 - c.utf8Size) rest).map fun parts => (c :: parts.1, parts.2)
      else none

/-- A byte offset that falls between two characters of the text or on one of its ends. -/
def isBoundary (text : Text) (bytes : Nat) : Bool := (cut? bytes text).isSome

@[simp] theorem cut?_zero (text : Text) : cut? 0 text = some ([], text) := by
  cases text <;> rfl

theorem cut?_byteLength_append (front back : Text) :
    cut? (byteLength front) (front ++ back) = some (front, back) := by
  induction front with
  | nil => simp
  | cons c front ih =>
      obtain ⟨bytes, hbytes⟩ : ∃ bytes, byteLength (c :: front) = bytes + 1 :=
        ⟨byteLength (c :: front) - 1, by have := c.utf8Size_pos; simp; omega⟩
      have hrest : bytes + 1 - c.utf8Size = byteLength front := by
        rw [← hbytes, byteLength_cons, Nat.add_sub_cancel_left]
      have hle : c.utf8Size ≤ bytes + 1 := by rw [← hbytes]; simp
      simp [hbytes, cut?, hle, hrest, ih]

theorem append_of_cut? {bytes : Nat} {text front back : Text}
    (hcut : cut? bytes text = some (front, back)) :
    text = front ++ back ∧ byteLength front = bytes := by
  induction text generalizing bytes front with
  | nil =>
      cases bytes with
      | zero => simp_all
      | succ bytes => simp [cut?] at hcut
  | cons c rest ih =>
      cases bytes with
      | zero =>
          simp only [cut?_zero, Option.some.injEq, Prod.mk.injEq] at hcut
          obtain ⟨rfl, rfl⟩ := hcut
          simp
      | succ bytes =>
          unfold cut? at hcut
          split at hcut
          · next hle =>
              obtain ⟨parts, hparts, heq⟩ := Option.map_eq_some_iff.mp hcut
              simp only [Prod.mk.injEq] at heq
              obtain ⟨rfl, rfl⟩ := heq
              obtain ⟨hrest, hlength⟩ := ih hparts
              exact ⟨by rw [hrest]; rfl, by rw [byteLength_cons, hlength]; omega⟩
          · simp at hcut

/-- A cut succeeds exactly at the byte length of a front part, and yields that part. -/
theorem cut?_eq_some_iff {bytes : Nat} {text front back : Text} :
    cut? bytes text = some (front, back) ↔ text = front ++ back ∧ byteLength front = bytes :=
  ⟨append_of_cut?, fun ⟨htext, hlength⟩ => by
    rw [htext, ← hlength]; exact cut?_byteLength_append front back⟩

/-! ## Counting characters -/

/-- The byte offset of the character that has `count` others before it. -/
def offset? : Nat → Text → Option Nat
  | _, [] => none
  | 0, _ :: _ => some 0
  | count + 1, c :: rest => (offset? count rest).map (c.utf8Size + ·)

theorem offset?_of_lt {count : Nat} {text : Text} (h : count < text.length) :
    offset? count text = some (byteLength (text.take count)) := by
  induction text generalizing count with
  | nil => simp at h
  | cons c rest ih =>
      cases count with
      | zero => rfl
      | succ count => simp [offset?, ih (Nat.lt_of_succ_lt_succ h)]

theorem offset?_of_le {count : Nat} {text : Text} (h : text.length ≤ count) :
    offset? count text = none := by
  induction text generalizing count with
  | nil => cases count <;> rfl
  | cons c rest ih =>
      cases count with
      | zero => simp at h
      | succ count => simp [offset?, ih (Nat.le_of_succ_le_succ h)]

/-! ## Occurrences -/

/-- The byte offset of the first occurrence of `target`.  The empty target occurs at offset zero
of every text. -/
def find? (target : Text) : Text → Option Nat
  | [] => if target.isPrefixOf [] then some 0 else none
  | c :: rest =>
      if target.isPrefixOf (c :: rest) then some 0
      else (find? target rest).map (c.utf8Size + ·)

/-- `front` is what stands before the first occurrence of `target`. -/
structure IsBefore (target text front : Text) : Prop where
  occurs : front ++ target <+: text
  first : ∀ other, other ++ target <+: text → front.length ≤ other.length

variable {target text front : Text}

theorem IsBefore.isPrefix (h : IsBefore target text front) : front <+: text :=
  (List.prefix_append front target).trans h.occurs

theorem IsBefore.unique {other : Text} (hfront : IsBefore target text front)
    (hother : IsBefore target text other) : front = other := by
  have hle : front.length ≤ other.length := hfront.first other hother.occurs
  have hge : other.length ≤ front.length := hother.first front hfront.occurs
  have hshorter : front <+: other :=
    List.prefix_of_prefix_length_le hfront.isPrefix hother.isPrefix hle
  exact hshorter.eq_of_length (Nat.le_antisymm hle hge)

/-- Where the target does not start a text, it occurs behind the first character or not at all. -/
theorem append_isPrefix_cons_iff {c : Char} {rest : Text} (h : ¬ target <+: c :: rest) :
    front ++ target <+: c :: rest ↔ ∃ inner, front = c :: inner ∧ inner ++ target <+: rest := by
  constructor
  · intro hfront
    cases front with
    | nil => exact absurd hfront h
    | cons d inner =>
        obtain ⟨rfl, hinner⟩ := List.cons_prefix_cons.mp hfront
        exact ⟨inner, rfl, hinner⟩
  · rintro ⟨inner, rfl, hinner⟩
    exact List.cons_prefix_cons.mpr ⟨rfl, hinner⟩

theorem isBefore_nil (h : target <+: text) : IsBefore target text [] :=
  ⟨h, fun _ _ => Nat.zero_le _⟩

theorem IsBefore.cons {c : Char} {rest : Text} (hstart : ¬ target <+: c :: rest)
    (h : IsBefore target rest front) : IsBefore target (c :: rest) (c :: front) where
  occurs := List.cons_prefix_cons.mpr ⟨rfl, h.occurs⟩
  first other hother := by
    obtain ⟨inner, rfl, hinner⟩ := (append_isPrefix_cons_iff hstart).mp hother
    exact Nat.succ_le_succ (h.first inner hinner)

/-- More text at the end brings no earlier occurrence, as one that starts earlier also ends earlier and
so lies in the text already. -/
theorem IsBefore.append (h : IsBefore target text front) (tail : Text) :
    IsBefore target (text ++ tail) front where
  occurs := h.occurs.trans (List.prefix_append text tail)
  first other hother := by
    refine Nat.le_of_not_lt fun hlt => ?_
    have hends : (front ++ target).length ≤ text.length := h.occurs.length_le
    have hlength : (other ++ target).length ≤ text.length := by
      rw [List.length_append] at hends ⊢
      omega
    have hinside : other ++ target <+: text :=
      List.prefix_of_prefix_length_le hother (List.prefix_append text tail) hlength
    exact absurd (h.first other hinside) (Nat.not_le_of_lt hlt)

/-- The search finds the length of what stands before the first occurrence, or there is none. -/
theorem find?_cases (target text : Text) :
    (∃ front, IsBefore target text front ∧ find? target text = some front.byteLength) ∨
      (∀ front, ¬ front ++ target <+: text) ∧ find? target text = none := by
  induction text with
  | nil =>
      by_cases hstart : target <+: []
      · exact .inl ⟨[], isBefore_nil hstart, by simp [find?, List.prefix_nil.mp hstart]⟩
      · have hnone : find? target [] = none := by
          rw [find?, if_neg (mt List.isPrefixOf_iff_prefix.mp hstart)]
        refine .inr ⟨fun front hfront => hstart ?_, hnone⟩
        rw [List.prefix_nil, List.append_eq_nil_iff] at hfront
        exact List.prefix_nil.mpr hfront.2
  | cons c rest ih =>
      by_cases hstart : target <+: c :: rest
      · refine .inl ⟨[], isBefore_nil hstart, ?_⟩
        rw [find?, if_pos (List.isPrefixOf_iff_prefix.mpr hstart), byteLength_nil]
      · have hbehind : find? target (c :: rest) = (find? target rest).map (c.utf8Size + ·) := by
          rw [find?, if_neg (mt List.isPrefixOf_iff_prefix.mp hstart)]
        rcases ih with ⟨front, hfront, hfound⟩ | ⟨hmissing, hnone⟩
        · exact .inl ⟨c :: front, hfront.cons hstart, by simp [hbehind, hfound]⟩
        · refine .inr ⟨fun front hfront => ?_, by simp [hbehind, hnone]⟩
          obtain ⟨inner, -, hinner⟩ := (append_isPrefix_cons_iff hstart).mp hfront
          exact hmissing inner hinner

/-- Where there is an occurrence, there is a first one. -/
theorem exists_isBefore (h : front ++ target <+: text) : ∃ first, IsBefore target text first := by
  rcases find?_cases target text with ⟨first, hfirst, -⟩ | ⟨hmissing, -⟩
  · exact ⟨first, hfirst⟩
  · exact absurd h (hmissing front)

theorem find?_eq_some_iff {offset : Nat} :
    find? target text = some offset ↔
      ∃ front, IsBefore target text front ∧ front.byteLength = offset := by
  rcases find?_cases target text with ⟨front, hfront, hfound⟩ | ⟨hmissing, hnone⟩
  · rw [hfound, Option.some.injEq]
    constructor
    · rintro rfl
      exact ⟨front, hfront, rfl⟩
    · rintro ⟨other, hother, rfl⟩
      rw [hfront.unique hother]
  · rw [hnone]
    constructor
    · intro h
      cases h
    · rintro ⟨front, hfront, -⟩
      exact absurd hfront.occurs (hmissing front)

theorem find?_eq_none_iff : find? target text = none ↔ ∀ front, ¬ front ++ target <+: text := by
  rcases find?_cases target text with ⟨front, hfront, hfound⟩ | ⟨hmissing, hnone⟩
  · rw [hfound]
    constructor
    · intro h
      cases h
    · intro h
      exact absurd hfront.occurs (h front)
  · exact ⟨fun _ => hmissing, fun _ => hnone⟩

end Text

end ParserCombinators
