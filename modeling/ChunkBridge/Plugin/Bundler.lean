import ChunkBridge.Plugin.CompilerPlugin

/-!
# Bundlers

A bundler calls the hooks of its plugins in order. What one plugin makes of a module or chunk is
what the next one gets, and the source maps of all that changed it are kept in that order.
-/

namespace ChunkBridge

/-- A plugin that puts a text behind modules and chunks. Style sheets are left alone with a
warning, and files that ask for it end the build. -/
structure AppendPlugin where
  text : String
deriving Repr, DecidableEq, Inhabited

namespace AppendPlugin

def name (p : AppendPlugin) : String := s!"append {p.text}"

/-- The name of a file ends with an extension. -/
def hasEnding (file ending : String) : Bool := ending.toList.isSuffixOf file.toList

/-- Puts the text behind a module or chunk; `subject` is what that is called. -/
def apply (p : AppendPlugin) (subject code : String) : Reply AppendPlugin :=
  if hasEnding subject ".css" then
    { plugin := p, log.events := [.warned p.name s!"skipping {subject} in {p.name}"] }
  else if hasEnding subject ".fail" then
    { plugin := p, result := .error (.refused ⟨[⟨s!"cannot append to {subject}", []⟩]⟩) }
  else { plugin := p, result := .ok (some { code := code ++ p.text }) }

end AppendPlugin

/-- A plugin. -/
inductive Plugin where
  | compiler (plugin : CompilerPlugin)
  | append (plugin : AppendPlugin)
  /-- A plugin that leaves everything alone. -/
  | idle

namespace Plugin

/-- Takes the input of the builds to come. -/
def configure (input : InputOptions) : Plugin → Plugin
  | .compiler p => .compiler (p.configure input)
  | p => p

/-- Starts a build. -/
def buildStart : Plugin → Reply Plugin
  | .compiler p => p.buildStart.map .compiler
  | p => { plugin := p }

/-- What a plugin makes of a module. -/
def transform (id code : String) : Plugin → Reply Plugin
  | .compiler p => (p.transform id code).map .compiler
  | .append p => (p.apply id code).map .append
  | .idle => { plugin := .idle }

/-- What a plugin makes of a chunk. -/
def renderChunk (handed : Compiler) (format : OutputFormat) (chunk : Chunk) (code : String) :
    Plugin → Reply Plugin
  | .compiler p => (p.renderChunk handed format chunk code).map .compiler
  | .append p => (p.apply chunk.fileName code).map .append
  | .idle => { plugin := .idle }

/-- The plugin for people to read, if it is the compiler plugin. -/
def shown? : Plugin → Option String
  | .compiler p => some p.shown
  | .append _ | .idle => none

end Plugin

/-- A module or chunk on its way through the plugins. -/
structure Passage where
  code : String
  /-- The source maps of the plugins that changed it, in order. -/
  maps : List SourceMap := []
deriving Repr, DecidableEq, Inhabited

/-- What a plugin made of a module or chunk. -/
def Passage.advance (passage : Passage) : Option Output → Passage
  | none => passage
  | some output => ⟨output.code, passage.maps ++ output.map.toList⟩

/-- What plugins made of a module or chunk. -/
structure Chained where
  plugins : List Plugin
  log : Log := {}
  result : Except HookFault Passage

/-- Calls a hook of plugins in order. A fault keeps the plugins behind it from being called. -/
def chain (hook : String → Plugin → Reply Plugin) : List Plugin → Passage → Chained
  | [], passage => { plugins := [], result := .ok passage }
  | p :: ps, passage =>
    let reply := hook passage.code p
    match reply.result with
    | .error fault => { plugins := reply.plugin :: ps, log := reply.log, result := .error fault }
    | .ok output =>
      let chained := chain hook ps (passage.advance output)
      { chained with plugins := reply.plugin :: chained.plugins, log := reply.log ++ chained.log }

/-- A bundler. -/
structure Bundler where
  plugins : List Plugin := []
  /-- The warnings that nobody has taken yet. -/
  warnings : List String := []

namespace Bundler

/-- The bundler behind a chain of hooks. -/
def keep (b : Bundler) (chained : Chained) : Bundler where
  plugins := chained.plugins
  warnings := b.warnings ++ chained.log.events.filterMap Event.warning?

/-- Hands the plugins the input of the builds to come. -/
def configure (b : Bundler) (input : InputOptions) : Bundler :=
  { b with plugins := b.plugins.map (Plugin.configure input) }

/-- What a hook of all plugins leaves. -/
structure Answer where
  bundler : Bundler
  log : Log
  result : Except HookFault Passage

/-- Calls a hook of all plugins. -/
def call (b : Bundler) (hook : String → Plugin → Reply Plugin) (code : String) : Answer :=
  let chained := chain hook b.plugins ⟨code, []⟩
  ⟨b.keep chained, chained.log, chained.result⟩

/-- Starts a build. -/
def buildStart (b : Bundler) : Answer := b.call (fun _ => Plugin.buildStart) ""

/-- What the plugins make of a module. -/
def transform (b : Bundler) (id code : String) : Answer := b.call (Plugin.transform id) code

/-- What the plugins make of a chunk. -/
def renderChunk (b : Bundler) (handed : Compiler) (format : OutputFormat) (chunk : Chunk)
    (code : String) : Answer :=
  b.call (Plugin.renderChunk handed format chunk) code

/-- Takes the warnings. -/
def takeWarnings (b : Bundler) : List String × Bundler := (b.warnings, { b with warnings := [] })

end Bundler
end ChunkBridge
