import ChunkBridge.Edit.Buffer

/-!
# Revisions

What is to be done to a text, as data: ranges that get another text, and lines that are put
behind everything.
-/

namespace ChunkBridge
open ChunkBridge.Text

/-- A range of a source and the text that comes in its place. -/
structure Edit where
  span : Span
  text : List Char := []
deriving Repr, DecidableEq, Inhabited

/-- The range of the edit can be edited in a source. -/
def Edit.fits (source : List Char) (e : Edit) : Bool := Buffer.isRange source e.span

/-- Edits of a source, and a text for its end. -/
structure Revision where
  edits : List Edit := []
  trailer : List Char := []
deriving Repr, DecidableEq, Inhabited

namespace Buffer

/-- Makes an edit; one that does not fit changes nothing. -/
def edit (b : Buffer) (e : Edit) : Buffer :=
  (b.update e.span.start e.span.stop e.text).getD b

/-- Makes a revision. -/
def revise (b : Buffer) (r : Revision) : Buffer := (r.edits.foldl edit b).append r.trailer

end Buffer

/-- A source after a revision. -/
def Revision.apply (r : Revision) (source : String) : String :=
  ((Buffer.ofText source).revise r).text

end ChunkBridge
