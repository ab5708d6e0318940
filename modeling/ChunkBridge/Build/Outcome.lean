import ChunkBridge.Build.Failure
import ChunkBridge.SourceMap.Basic

/-!
# Outcomes

What becomes of a module or chunk: a failure is told and then treated like no change.
-/

namespace ChunkBridge

/-- A module or chunk that was changed, and where its parts come from, if that is known. -/
structure Output where
  code : String
  map : Option SourceMap := none
deriving Repr, DecidableEq, Inhabited

/-- What becomes of a module or chunk. -/
inductive Outcome where
  | unchanged
  | transformed (output : Output)
  | failed (failure : Failure)
deriving Repr, DecidableEq, Inhabited

namespace Outcome

/-- The changed module or chunk, if it is to be used. -/
def output? : Outcome → Option Output
  | .transformed output => some output
  | .unchanged | .failed _ => none

/-- What went wrong, if anything did. -/
def failure? : Outcome → Option Failure
  | .failed failure => some failure
  | .unchanged | .transformed _ => none

end Outcome
end ChunkBridge
