import ChunkBridge.Text.Span

/-!
# Places

A place in a source: the text still ahead and the number of bytes behind. A place can only be
made from the start of the source and by moving forward, so it always falls between two
characters (`Place.isCut_offset`).
-/

namespace ChunkBridge.Script
open ChunkBridge.Text

/-- A cut of the source. -/
structure Place (source : List Char) where
  offset : Nat
  rest : List Char
  isCut : ∃ before, source = before ++ rest ∧ byteLength before = offset

namespace Place
variable {source : List Char}

/-- The place before the first character. -/
def first (source : List Char) : Place source :=
  ⟨0, source, [], rfl, rfl⟩

/-- The place `n` characters further on. -/
def advance (p : Place source) (n : Nat) : Place source where
  offset := p.offset + byteLength (p.rest.take n)
  rest := p.rest.drop n
  isCut := by
    obtain ⟨before, hs, hb⟩ := p.isCut
    refine ⟨before ++ p.rest.take n, ?_, by rw [byteLength_append, hb]⟩
    rw [List.append_assoc, List.take_append_drop]
    exact hs

theorem le_advance (p : Place source) (n : Nat) : p.offset ≤ (p.advance n).offset :=
  Nat.le_add_right ..

theorem lt_advance (p : Place source) {n : Nat} (pos : 0 < byteLength (p.rest.take n)) :
    p.offset < (p.advance n).offset :=
  Nat.lt_add_of_pos_right pos

theorem isCut_offset (p : Place source) : IsCut source p.offset := by
  obtain ⟨before, hs, hb⟩ := p.isCut
  exact ⟨before, p.rest, hs, hb⟩

end Place
end ChunkBridge.Script
