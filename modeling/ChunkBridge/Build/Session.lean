import ChunkBridge.Config.Bundle
import ChunkBridge.Config.Options
import ChunkBridge.Filter.Basic
import ChunkBridge.Ledger.Basic
import ChunkBridge.Store

/-!
# Build sessions

What the stages of one build share. The filter, the flags and the input are settled when the
build starts; the names, the records and the number of scratch files grow with every module and
chunk.
-/

namespace ChunkBridge

/-- A running build. -/
structure Session where
  filter : Filter := {}
  flags : Flags := {}
  input : InputOptions := {}
  ledger : Ledger := {}
  store : Store := {}
  /-- How many scratch files there are. -/
  scratchFiles : Nat := 0

namespace Session

/-- The patterns that may be given, as a list. -/
def patternList (patterns : Option Patterns) : List String :=
  (patterns.map Patterns.toList).getD []

/-- A build that has seen nothing yet. -/
def start (options : Options) (input : InputOptions) : Session where
  filter := .ofPatterns (patternList options.include?) (patternList options.exclude?) input.cwd
  flags := options.flags
  input

/-- Writes a scratch file. -/
def writeFile (session : Session) (contents : String) : ScratchFile × Session :=
  (⟨session.scratchFiles, contents⟩,
    { session with scratchFiles := session.scratchFiles + 1 })

/-- The name that is called `name` in the scope of all chunks. -/
def resolveExport (session : Session) (name : String) : String × Session :=
  let (mangled, ledger) := session.ledger.resolve name exportsScope
  (mangled, { session with ledger })

end Session
end ChunkBridge
