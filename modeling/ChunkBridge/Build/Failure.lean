import ChunkBridge.Script.Outline

/-!
# Failures

A failure says where a build was and what went wrong there. Most are not fatal: the module or
chunk is kept as it is.
-/

namespace ChunkBridge

/-- The part of a build where something went wrong. -/
inductive Stage where
  /-- A module or chunk is no script. -/
  | parse
  /-- A module cannot be prepared. -/
  | sourceTransform
  /-- A chunk cannot be prepared for the compiler. -/
  | preCompilation
  /-- The compiler cannot be called as asked. -/
  | options
  /-- The compiler itself. -/
  | compilation
  /-- The compiled chunk cannot be repaired. -/
  | postCompilation
  /-- The source map of the compiler cannot be used. -/
  | sourceMap
deriving Repr, DecidableEq, Inhabited

/-- The words for a stage. -/
def Stage.name : Stage → String
  | .parse => "parse"
  | .sourceTransform => "source transform"
  | .preCompilation => "pre-compilation"
  | .options => "options"
  | .compilation => "compilation"
  | .postCompilation => "post-compilation"
  | .sourceMap => "source map"

/-- What went wrong: what was tried, then what that came from, down to the cause. -/
structure Trace where
  outermost : String
  causes : List String := []
deriving Repr, DecidableEq, Inhabited

/-- The wording of a trace. -/
def Trace.message (t : Trace) : String := ": ".intercalate (t.outermost :: t.causes)

/-- The trace of something that was tried. -/
def Trace.within (t : Trace) (tried : String) : Trace := ⟨tried, t.outermost :: t.causes⟩

/-- Why a source has no outline, as a trace. -/
def Script.OutlineError.trace (e : OutlineError) : Trace := ⟨e.message, []⟩

/-- A failure and where it happened. -/
structure Failure where
  stage : Stage
  trace : Trace
deriving Repr, DecidableEq, Inhabited

/-- The wording of a failure. -/
def Failure.message (f : Failure) : String := s!"{f.stage.name} failed: {f.trace.message}"

/-- Errors that end a build. -/
structure BuildError where
  traces : List Trace
deriving Repr, DecidableEq, Inhabited

/-- The wording of the errors, one line for each. -/
def BuildError.message (e : BuildError) : String := "\n".intercalate (e.traces.map Trace.message)

end ChunkBridge
