/-!
# Spans of text

Positions in a text are counted in UTF-8 bytes. A text is read as its list of characters, so a
position is a *cut* when it falls between two characters. `slice` gives the characters between
two cuts, and `take_append_drop` says that cutting a text loses nothing.
-/

namespace ChunkBridge.Text

/-- The half-open range of bytes from `start` up to `stop`. -/
structure Span where
  start : Nat
  stop : Nat
deriving Repr, DecidableEq, Inhabited

/-- How many UTF-8 bytes the characters take. -/
def byteLength : List Char → Nat
  | [] => 0
  | c :: cs => c.utf8Size + byteLength cs

/-- How many UTF-16 code units the characters take. -/
def unitLength : List Char → Nat
  | [] => 0
  | c :: cs => (if c.toNat < 0x10000 then 1 else 2) + unitLength cs

@[simp] theorem byteLength_nil : byteLength [] = 0 := rfl

@[simp] theorem byteLength_cons (c : Char) (cs : List Char) :
    byteLength (c :: cs) = c.utf8Size + byteLength cs := rfl

@[simp] theorem byteLength_append (xs ys : List Char) :
    byteLength (xs ++ ys) = byteLength xs + byteLength ys := by
  induction xs with
  | nil => simp
  | cons c cs ih => simp [ih, Nat.add_assoc]

theorem byteLength_eq_zero {cs : List Char} : byteLength cs = 0 ↔ cs = [] := by
  cases cs with
  | nil => simp
  | cons c cs =>
    have := c.utf8Size_pos
    simp only [byteLength_cons, reduceCtorEq, iff_false]
    omega

theorem byteLength_pos {cs : List Char} (nonempty : cs ≠ []) : 0 < byteLength cs :=
  Nat.pos_of_ne_zero (mt byteLength_eq_zero.mp nonempty)

/-- The characters that begin before byte `n`. -/
def takeBytes : Nat → List Char → List Char
  | 0, _ => []
  | _, [] => []
  | n + 1, c :: cs => c :: takeBytes (n + 1 - c.utf8Size) cs

/-- The characters that begin at byte `n` or later. -/
def dropBytes : Nat → List Char → List Char
  | 0, cs => cs
  | _, [] => []
  | n + 1, c :: cs => dropBytes (n + 1 - c.utf8Size) cs

@[simp] theorem takeBytes_zero (cs : List Char) : takeBytes 0 cs = [] := by
  cases cs <;> rfl

@[simp] theorem dropBytes_zero (cs : List Char) : dropBytes 0 cs = cs := by
  cases cs <;> rfl

theorem takeBytes_append_dropBytes (n : Nat) (cs : List Char) :
    takeBytes n cs ++ dropBytes n cs = cs := by
  induction cs generalizing n with
  | nil => cases n <;> rfl
  | cons c cs ih => cases n with
    | zero => simp
    | succ n => simp [takeBytes, dropBytes, ih]

/-- A position is a cut of the text when the text splits there. -/
def IsCut (cs : List Char) (n : Nat) : Prop :=
  ∃ before after, cs = before ++ after ∧ byteLength before = n

theorem takeBytes_byteLength_append (before after : List Char) :
    takeBytes (byteLength before) (before ++ after) = before := by
  induction before with
  | nil => simp
  | cons c cs ih =>
    have h := c.utf8Size_pos
    obtain ⟨k, hk⟩ : ∃ k, c.utf8Size + byteLength cs = k + 1 :=
      ⟨c.utf8Size + byteLength cs - 1, by omega⟩
    rw [byteLength_cons, hk, List.cons_append, takeBytes, ← hk, Nat.add_sub_cancel_left, ih]

theorem dropBytes_byteLength_append (before after : List Char) :
    dropBytes (byteLength before) (before ++ after) = after := by
  have h := takeBytes_append_dropBytes (byteLength before) (before ++ after)
  rw [takeBytes_byteLength_append] at h
  exact List.append_cancel_left h

/-- The characters of a span. -/
def sliceChars (cs : List Char) (span : Span) : List Char :=
  takeBytes (span.stop - span.start) (dropBytes span.start cs)

/-- The text of a span. -/
def slice (text : String) (span : Span) : String :=
  String.ofList (sliceChars text.toList span)

end ChunkBridge.Text
