import ChunkBridge.Text.IdentifierRanges

/-!
# Identifier names

Which characters a script may use in a name: Unicode ID_Start or ID_Continue, the dollar sign,
the underscore and, after the first character, the two joiners.
-/

namespace ChunkBridge.Text

/-- The code point lies in one of the inclusive ranges. -/
def inRanges (ranges : List (Nat × Nat)) (n : Nat) : Bool :=
  ranges.any fun (low, high) => low ≤ n && n ≤ high

/-- A character that a name may begin with. -/
def isIdentifierStart (c : Char) : Bool :=
  if c.toNat < 128 then c.isAlpha || c == '$' || c == '_'
  else inRanges identifierStartRanges c.toNat

/-- A character that a name may go on with. -/
def isIdentifierPart (c : Char) : Bool :=
  if c.toNat < 128 then c.isAlphanum || c == '$' || c == '_'
  else c == '\u200c' || c == '\u200d' || inRanges identifierStartRanges c.toNat ||
    inRanges identifierContinueRanges c.toNat

/-- The text is a name: a start character followed by part characters. -/
def isIdentifierName : List Char → Bool
  | [] => false
  | c :: cs => isIdentifierStart c && cs.all isIdentifierPart

theorem isIdentifierPart_of_isIdentifierStart {c : Char} (h : isIdentifierStart c = true) :
    isIdentifierPart c = true := by
  unfold isIdentifierStart at h
  unfold isIdentifierPart
  split at h
  · rename_i hc
    simp only [Bool.or_eq_true, beq_iff_eq] at h
    rcases h with (h | h) | h <;> simp [hc, Char.isAlphanum, h]
  · rename_i hc
    simp [hc, h]

end ChunkBridge.Text
