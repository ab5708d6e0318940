import ChunkBridge.Edit.Buffer

/-!
# Source maps of edited texts

An edited text knows where its parts come from: each line of a kept piece has a token at its
first character, and so has an edited piece with a text.
-/

namespace ChunkBridge
open SourceMap (Position Token)

namespace Piece

/-- The tokens of kept text: one at the first character of each line. `fresh` when the next
character is the first. -/
def keptTokens (fresh : Bool) (generated origin : Position) : List Char → List Token
  | [] => []
  | c :: cs =>
    if c == '\n' then keptTokens true (generated.step c) (origin.step c) cs
    else if fresh then
      ⟨generated, some ⟨0, origin, none⟩⟩ :: keptTokens false (generated.step c) (origin.step c) cs
    else keptTokens false (generated.step c) (origin.step c) cs

/-- The tokens of a piece. -/
def tokens (p : Piece) (generated origin : Position) : List Token :=
  match p.edited with
  | some [] => []
  | some _ => [⟨generated, some ⟨0, origin, none⟩⟩]
  | none => keptTokens true generated origin p.base

/-- The tokens of pieces one after the other. -/
def tokensFrom (generated origin : Position) : List Piece → List Token
  | [] => []
  | p :: ps =>
    p.tokens generated origin ++
      tokensFrom (generated.advance p.text) (origin.advance p.base) ps

end Piece

/-- The source map of an edited text; `name` is what its source is called. -/
def Buffer.sourceMap (b : Buffer) (name : String) : SourceMap where
  sources := [name]
  contents := some [String.ofList b.source]
  tokens := Piece.tokensFrom (Position.advance {} b.before) {} b.pieces

end ChunkBridge
