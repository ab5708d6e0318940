import ChunkBridge.Build.Failure
import ChunkBridge.Config.Bundle

/-!
# Chunks under preparation

What a pass is given of a chunk, and what may keep it from doing its work.
-/

namespace ChunkBridge
open ChunkBridge.Script

/-- A chunk with its outline. -/
structure ChunkUnit where
  chunk : Chunk
  code : String
  outline : Outline

/-- What keeps a pass from doing its work. -/
inductive PassFault where
  /-- The chunk is no script. -/
  | unreadable (error : OutlineError)
  /-- The name issued for an export is a property that the chunk assigns on its own. -/
  | takenBridge (bridge exported : String)
  /-- A default export without a name does not end in a brace. -/
  | openDefault (file : String)
  /-- The compiled chunk assigns a bridge twice. -/
  | repeatedBridge (bridge file : String)
  /-- A bridge stands for no export. -/
  | unissuedBridge (bridge : String)
  /-- The compiled chunk does not assign a bridge. -/
  | missingBridge (bridge file : String)
  /-- The pass would edit a range that cannot be edited. -/
  | misplacedEdit
deriving Repr, DecidableEq, Inhabited

/-- The wording of the fault. -/
def PassFault.message : PassFault → String
  | .unreadable error => error.message
  | .takenBridge bridge exported =>
    s!"Bridge \x60{bridge}\x60 of export \x60{exported}\x60 is assigned by the chunk itself"
  | .openDefault file => s!"Unexpected end of default export in {file}"
  | .repeatedBridge bridge file =>
    s!"Bridge \x60{bridge}\x60 is assigned more than once in the compiled {file}"
  | .unissuedBridge bridge => s!"Bridge \x60{bridge}\x60 was never issued"
  | .missingBridge bridge file => s!"Bridge \x60{bridge}\x60 is missing from the compiled {file}"
  | .misplacedEdit => "Misplaced edit"

end ChunkBridge
