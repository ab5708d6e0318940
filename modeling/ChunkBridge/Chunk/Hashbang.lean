import ChunkBridge.Config.Bundle
import ChunkBridge.Module.Pass

/-!
# Hashbang lines

The hashbang line of an entry module belongs on top of the chunk that is made for it.
-/

namespace ChunkBridge.Hashbang

/-- The line that was taken from the entry module of a chunk. -/
def line? (store : Store) (chunk : Chunk) : Option String :=
  chunk.facade.bind fun id => store.get? String (hashbangKey id)

/-- The text begins with a hashbang line. -/
def isPresent (code : String) : Bool := "#!".toList.isPrefixOf code.toList

/-- Puts the line on top of a compiled chunk. A chunk that begins with such a line kept it, since
its entry module was not prepared. -/
def restore (store : Store) (chunk : Chunk) (code : String) : String :=
  match line? store chunk with
  | none => code
  | some line => if isPresent code then code else line ++ "\n" ++ code

end ChunkBridge.Hashbang
