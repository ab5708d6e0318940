import ChunkBridge.SourceMap.Basic
import ChunkBridge.Text.Span

/-!
# Edited texts

A source that is edited by position. The source is kept in pieces: an edit cuts it at both ends
of its range and gives the first piece in between a new text. The pieces behind it become empty,
except the last one, which keeps its text. Positions always mean the source, not the edited text.
-/

namespace ChunkBridge
open ChunkBridge.Text

/-- A piece of a source and the text in its place, if that was edited. -/
structure Piece where
  base : List Char
  edited : Option (List Char) := none
deriving Repr, DecidableEq, Inhabited

namespace Piece

/-- The text of the piece. -/
def text (p : Piece) : List Char := p.edited.getD p.base

/-- The piece with another text. -/
def edit (p : Piece) (text : List Char) : Piece := { p with edited := some text }

/-- Cuts the pieces at a position, counted from the start of the first one. The second half of an
edited piece is empty. -/
def cut : Nat → List Piece → List Piece
  | _, [] => []
  | n, p :: ps =>
    let size := byteLength p.base
    if n == 0 then p :: ps
    else if size ≤ n then p :: cut (n - size) ps
    else
      { p with base := takeBytes n p.base } ::
        ⟨dropBytes n p.base, p.edited.map fun _ => []⟩ :: ps

/-- Empties the pieces up to a position, but not the one that ends there. -/
def clear : Nat → List Piece → List Piece
  | _, [] => []
  | n, p :: ps =>
    let size := byteLength p.base
    if n ≤ size then p :: ps else p.edit [] :: clear (n - size) ps

/-- Gives the pieces between two cuts a new text; positions count from the first piece. -/
def replace (text : List Char) : Nat → Nat → List Piece → List Piece
  | _, _, [] => []
  | start, stop, p :: ps =>
    let size := byteLength p.base
    if start == 0 then
      p.edit text :: if stop ≤ size then ps else clear (stop - size) ps
    else p :: replace text (start - size) (stop - size) ps

end Piece

/-- A source with its edits, and text in front of it and behind it. -/
structure Buffer where
  source : List Char
  pieces : List Piece
  before : List Char := []
  after : List Char := []
deriving Repr, DecidableEq, Inhabited

namespace Buffer

/-- A source without edits. -/
def ofText (text : String) : Buffer where
  source := text.toList
  pieces := [{ base := text.toList }]

/-- The position falls between two characters. -/
def isCut (cs : List Char) (n : Nat) : Bool := byteLength (takeBytes n cs) == n

/-- The range can be edited: it is not empty, does not reach beyond the source and neither begins
nor ends inside a character. -/
def isRange (cs : List Char) (span : Span) : Bool :=
  span.start < span.stop && isCut cs span.start && isCut cs span.stop

/-- Puts a text in the place of a range, if it can be edited. -/
def update (b : Buffer) (start stop : Nat) (text : List Char) : Option Buffer :=
  if isRange b.source ⟨start, stop⟩ then
    some { b with pieces := Piece.replace text start stop (Piece.cut stop (Piece.cut start b.pieces)) }
  else none

/-- Takes a range out. -/
def remove (b : Buffer) (start stop : Nat) : Option Buffer := b.update start stop []

/-- Puts a text in front of everything. -/
def prepend (b : Buffer) (text : List Char) : Buffer := { b with before := text ++ b.before }

/-- Puts a text behind everything. -/
def append (b : Buffer) (text : List Char) : Buffer := { b with after := b.after ++ text }

/-- The edited text. -/
def chars (b : Buffer) : List Char := b.before ++ b.pieces.flatMap Piece.text ++ b.after

/-- The edited text. -/
def text (b : Buffer) : String := String.ofList b.chars

@[simp] theorem chars_ofText (text : String) : (ofText text).chars = text.toList := by
  simp [ofText, chars, Piece.text]

theorem text_ofText (text : String) : (ofText text).text = text := by
  simp [Buffer.text]

theorem chars_append (b : Buffer) (text : List Char) :
    (b.append text).chars = b.chars ++ text := by
  simp [append, chars]

end Buffer
end ChunkBridge
