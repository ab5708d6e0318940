import ChunkBridge.Edit.Revision

/-!
# What no edit reaches

Edits that begin behind the start of a source leave that start as it is. The pieces of the source
are followed through the edits: the first of them stay unedited, however they are cut.
-/

namespace ChunkBridge
open ChunkBridge.Text

/-- The pieces begin with a text that was not edited. -/
inductive Piece.Keeps : List Char → List Piece → Prop where
  | nil (ps : List Piece) : Keeps [] ps
  /-- The text ends inside the first piece. -/
  | inside {cs base : List Char} (ps : List Piece) (within : cs <+: base) : Keeps cs ({ base } :: ps)
  /-- The text goes on behind the first piece. -/
  | across {cs : List Char} {ps : List Piece} (base : List Char) (more : Keeps cs ps) :
    Keeps (base ++ cs) ({ base } :: ps)

namespace Piece

/-- What is kept is there. -/
theorem Keeps.isPrefix {cs : List Char} {ps : List Piece} (keeps : Keeps cs ps) :
    cs <+: ps.flatMap text := by
  induction keeps with
  | nil ps => exact List.nil_prefix
  | inside ps within => exact within.trans (List.prefix_append _ _)
  | across base more ih => exact List.prefix_append_right_inj base |>.mpr ih

/-- A piece may come in two. -/
theorem Keeps.halve {cs xs ys : List Char} {ps : List Piece}
    (keeps : Keeps cs ({ base := xs ++ ys } :: ps)) :
    Keeps cs ({ base := xs } :: { base := ys } :: ps) := by
  cases keeps with
  | nil => exact .nil _
  | inside _ within =>
    rcases List.prefix_or_prefix_of_prefix within (List.prefix_append xs ys) with short | ⟨more, rfl⟩
    · exact .inside _ short
    · exact .across xs (.inside ps ((List.prefix_append_right_inj xs).mp within))
  | across _ more =>
    rw [List.append_assoc]
    exact .across xs (.across ys more)

/-- A cut loses nothing. -/
theorem Keeps.cut {cs : List Char} {ps : List Piece} (keeps : Keeps cs ps) (n : Nat) :
    Keeps cs (cut n ps) := by
  induction keeps generalizing n with
  | nil ps => exact .nil _
  | @inside cs base ps within =>
    unfold Piece.cut
    dsimp only
    split
    · exact .inside ps within
    · split
      · exact .inside _ within
      · refine Keeps.halve ?_
        rw [takeBytes_append_dropBytes]
        exact .inside ps within
  | @across cs ps base more ih =>
    unfold Piece.cut
    dsimp only
    split
    · exact .across base more
    · split
      · exact .across base (ih _)
      · refine Keeps.halve ?_
        rw [takeBytes_append_dropBytes]
        exact .across base more

/-- A new text for pieces further on. -/
theorem Keeps.replace {cs : List Char} {ps : List Piece} (keeps : Keeps cs ps) (new : List Char)
    {start : Nat} (behind : byteLength cs ≤ start) (stop : Nat) :
    Keeps cs (replace new start stop ps) := by
  induction keeps generalizing start stop with
  | nil ps => exact .nil _
  | @inside cs base ps within =>
    unfold Piece.replace
    dsimp only
    split
    next first =>
      have empty : cs = [] := byteLength_eq_zero.mp (by simpa [beq_iff_eq.mp first] using behind)
      rw [empty]
      exact .nil _
    next => exact .inside _ within
  | @across cs ps base more ih =>
    unfold Piece.replace
    dsimp only
    split
    next first =>
      have empty : base ++ cs = [] :=
        byteLength_eq_zero.mp (Nat.le_zero.mp (beq_iff_eq.mp first ▸ behind))
      rw [empty]
      exact .nil _
    next =>
      rw [byteLength_append] at behind
      exact .across base (ih (by omega) _)

end Piece

namespace Buffer

/-- The edited text begins with a text that no edit has touched. -/
structure Keeps (b : Buffer) (cs : List Char) : Prop where
  before_eq : b.before = []
  pieces : Piece.Keeps cs b.pieces

variable {b : Buffer} {cs : List Char}

theorem Keeps.isPrefix (keeps : b.Keeps cs) : cs <+: b.chars := by
  rw [chars, keeps.before_eq, List.nil_append]
  exact keeps.pieces.isPrefix.trans (List.prefix_append _ _)

/-- An edit behind a text leaves it as it is. -/
theorem Keeps.edit (keeps : b.Keeps cs) {e : Edit} (behind : byteLength cs ≤ e.span.start) :
    (b.edit e).Keeps cs := by
  unfold Buffer.edit Buffer.update
  split
  · exact ⟨keeps.before_eq, ((keeps.pieces.cut _).cut _).replace e.text behind _⟩
  · exact keeps

/-- So do several. -/
theorem Keeps.edits (keeps : b.Keeps cs) {edits : List Edit}
    (behind : ∀ e ∈ edits, byteLength cs ≤ e.span.start) : (edits.foldl Buffer.edit b).Keeps cs := by
  induction edits generalizing b with
  | nil => exact keeps
  | cons e edits ih =>
    have first := keeps.edit (behind e List.mem_cons_self)
    exact ih first fun e member => behind e (List.mem_cons_of_mem _ member)

end Buffer

namespace Revision

/-- A revision whose edits begin behind a text keeps the text in front. -/
theorem isPrefix_apply {r : Revision} {source : String} {cs : List Char}
    (starts : cs <+: source.toList) (behind : ∀ e ∈ r.edits, byteLength cs ≤ e.span.start) :
    cs <+: (r.apply source).toList := by
  have fresh : (Buffer.ofText source).Keeps cs := ⟨rfl, .inside [] starts⟩
  have keeps := fresh.edits behind
  have told : (r.apply source).toList =
      (r.edits.foldl Buffer.edit (Buffer.ofText source)).chars ++ r.trailer := by
    simp [apply, Buffer.text, Buffer.revise, Buffer.chars_append]
  rw [told]
  exact keeps.isPrefix.trans (List.prefix_append _ _)

/-- No range ends behind the end of its source. -/
theorem stop_le_of_isRange {cs : List Char} {span : Span} (h : Buffer.isRange cs span = true) :
    span.start < span.stop ∧ span.stop ≤ byteLength cs := by
  simp only [Buffer.isRange, Buffer.isCut, Bool.and_eq_true, decide_eq_true_eq, beq_iff_eq] at h
  obtain ⟨⟨lt, -⟩, cut⟩ := h
  have whole := congrArg byteLength (takeBytes_append_dropBytes span.stop cs)
  rw [byteLength_append] at whole
  exact ⟨lt, by omega⟩

/-- Edits that begin behind the end of a source do nothing to it. -/
theorem apply_of_beyond {r : Revision} {source : String}
    (beyond : ∀ e ∈ r.edits, byteLength source.toList ≤ e.span.start) :
    (r.apply source).toList = source.toList ++ r.trailer := by
  obtain ⟨edits, trailer⟩ := r
  have still : edits.foldl Buffer.edit (Buffer.ofText source) = Buffer.ofText source := by
    induction edits with
    | nil => rfl
    | cons e edits ih =>
      have far := beyond e List.mem_cons_self
      have misses : Buffer.isRange source.toList ⟨e.span.start, e.span.stop⟩ = false := by
        rw [Bool.eq_false_iff]
        intro fits
        obtain ⟨lt, le⟩ := stop_le_of_isRange fits
        exact absurd (Nat.lt_of_lt_of_le lt le) (Nat.not_lt.mpr far)
      have idle : (Buffer.ofText source).edit e = Buffer.ofText source := by
        simp [Buffer.edit, Buffer.update, Buffer.ofText, misses]
      rw [List.foldl_cons, idle]
      exact ih fun e member => beyond e (List.mem_cons_of_mem _ member)
  simp [apply, Buffer.text, Buffer.revise, Buffer.chars_append, still]

end Revision
end ChunkBridge
