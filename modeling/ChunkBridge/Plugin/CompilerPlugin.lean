import ChunkBridge.Build.Render
import ChunkBridge.Config.Shown
import ChunkBridge.Plugin.Hook
import ChunkBridge.Process.Program

/-!
# The compiler plugin

Prepares the modules of a build and runs its chunks through a compiler. What it knows of a build
is replaced when the next one starts, so one plugin serves several builds in a row. Failures of
single modules and chunks never end a build.
-/

namespace ChunkBridge
open Glob (Verdict)

/-- The compiler plugin. -/
structure CompilerPlugin where
  options : Options := {}
  /-- The program that compiles; without one it is the compiler that the bundler hands in. -/
  program : Option Program := none
  input : InputOptions := {}
  /-- The build that runs, if one does. -/
  session : Option Session := none

namespace CompilerPlugin

/-- The warning for builds that the compiler cannot optimize as asked. -/
def splittingWarning : String :=
  "Code Splitting with Closure Compiler ADVANCED_OPTIMIZATIONS is not currently supported."

/-- The build that runs. One that nobody started starts here. -/
def running (p : CompilerPlugin) : Session := p.session.getD (.start p.options p.input)

/-- The plugin with a build behind one of its hooks. -/
def keep (p : CompilerPlugin) (session : Session) : CompilerPlugin :=
  { p with session := some session }

/-- Takes the input of the builds to come. -/
def configure (p : CompilerPlugin) (input : InputOptions) : CompilerPlugin := { p with input }

/-- Starts a build. -/
def buildStart (p : CompilerPlugin) : Reply CompilerPlugin :=
  let isUnsupported := Flags.isAdvanced p.options.flags && p.input.isCodeSplitting
  { plugin := p.keep (.start p.options p.input)
    log.events := if isUnsupported then [.warned compilerPluginName splittingWarning] else [] }

/-- The events of an outcome. -/
def outcomeEvents (subject : String) (outcome : Outcome) : List Event :=
  (outcome.failure?.map (Event.skipped subject)).toList

/-- Prepares a module. -/
def transform (p : CompilerPlugin) (id code : String) : Reply CompilerPlugin :=
  let session := p.running
  match session.filter.verdict id with
  | .no => { plugin := p.keep session }
  | .tooDeep => { plugin := p.keep session, result := .error .crashed }
  | .yes =>
    let (outcome, session) := session.prepareModule id code ModulePass.registered
    { plugin := p.keep session
      log.events := outcomeEvents id outcome
      result := .ok outcome.output? }

/-- Renders a chunk; `handed` is the compiler that the bundler hands in. -/
def renderChunk (p : CompilerPlugin) (handed : Compiler) (format : OutputFormat) (chunk : Chunk)
    (code : String) : Reply CompilerPlugin :=
  let session := p.running
  match session.filter.verdict chunk.fileName with
  | .no => { plugin := p.keep session }
  | .tooDeep => { plugin := p.keep session, result := .error .crashed }
  | .yes =>
    let compiler := (p.program.map Program.compiler).getD handed
    let rendered := session.renderChunk format chunk compiler code
    let unprepared := (rendered.refusal.map (Event.unprepared chunk.fileName)).toList
    { plugin := p.keep rendered.session
      log.events :=
        unprepared ++ (rendered.outcome?.map (outcomeEvents chunk.fileName)).getD []
      log.calls := if p.program.isNone then rendered.call.toList else []
      result :=
        match rendered.outcome? with
        | some outcome => .ok outcome.output?
        | none => .error .crashed }

/-- The plugin for people to read. -/
def shown (p : CompilerPlugin) : String :=
  "ClosureCompilerPlugin \x7b options: " ++ p.options.shown ++ ", source_transforms: " ++
    Text.shownList (ModulePass.registered.map ModulePass.name) ++ ", .. \x7d"

end CompilerPlugin
end ChunkBridge
