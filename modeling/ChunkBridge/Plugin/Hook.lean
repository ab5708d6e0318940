import ChunkBridge.Build.Failure
import ChunkBridge.Build.Outcome
import ChunkBridge.Compile.Setting

/-!
# Hooks

A plugin answers the hooks of a bundler. Besides its answer a hook leaves a log: what the user is
told, and how a compiler was called.
-/

namespace ChunkBridge

/-- The name of the plugin that runs chunks through the compiler. -/
def compilerPluginName : String := "closure-compiler"

/-- Something that the user is told. -/
inductive Event where
  /-- A module or chunk stays as it is. -/
  | skipped (subject : String) (failure : Failure)
  /-- A chunk cannot be prepared and is compiled as it is. -/
  | unprepared (file : String) (trace : Trace)
  /-- A warning of a plugin. -/
  | warned (plugin text : String)
deriving Repr, DecidableEq, Inhabited

namespace Event

/-- The wording of the event. -/
def message : Event → String
  | .skipped subject failure =>
    s!"{compilerPluginName}: skipping {subject}: {failure.trace.message}"
  | .unprepared _ trace =>
    let failure : Failure := ⟨.preCompilation, trace⟩
    s!"{compilerPluginName}: {failure.message}, compiling the chunk as is"
  | .warned _ text => text

/-- The warning that the event adds to those of the build. -/
def warning? : Event → Option String
  | .warned plugin text => some s!"[plugin {plugin}] {text}"
  | .skipped .. | .unprepared .. => none

end Event

/-- What hooks leave besides their answers. -/
structure Log where
  events : List Event := []
  /-- The calls of a compiler that the bundler handed in. -/
  calls : List Invocation := []
deriving Inhabited

namespace Log

/-- Two logs, one after the other. -/
def append (a b : Log) : Log := ⟨a.events ++ b.events, a.calls ++ b.calls⟩

instance : Append Log := ⟨append⟩

end Log

/-- Why a hook does not answer. -/
inductive HookFault where
  /-- The plugin ends the build. -/
  | refused (error : BuildError)
  /-- The plugin broke down. -/
  | crashed
deriving Repr, DecidableEq, Inhabited

/-- The answer of a hook: the plugin behind it, its log, and what it makes of a module or chunk;
none if that is left as it is. -/
structure Reply (π : Type) where
  plugin : π
  log : Log := {}
  result : Except HookFault (Option Output) := .ok none

/-- The reply of a plugin that is a case of another type. -/
def Reply.map {π ρ : Type} (f : π → ρ) (r : Reply π) : Reply ρ := { r with plugin := f r.plugin }

end ChunkBridge
