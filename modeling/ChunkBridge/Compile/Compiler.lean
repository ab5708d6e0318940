import ChunkBridge.Build.Outcome
import ChunkBridge.Compile.Assemble
import ChunkBridge.SourceMap.Read
import ChunkBridge.Text.Utf8

/-!
# Compilers

A compiler is what it answers to an invocation: a text or an error, and the source map file that
it leaves. `Session.compile` runs a compiler over a prepared chunk and repairs its answer.
-/

namespace ChunkBridge

/-- What a compiler leaves where its source map belongs. -/
inductive MapFile where
  | absent
  | text (contents : String)
  /-- Bytes that are no text. -/
  | binary
deriving Repr, DecidableEq, Inhabited

/-- The file with some bytes. -/
def MapFile.ofBytes (bytes : List UInt8) : MapFile :=
  match Text.Utf8.decode bytes with
  | .ok contents => .text contents
  | .error _ => .binary

/-- The answer of a compiler. -/
structure Answer where
  code : Except Trace String
  map : MapFile := .text ""

/-- A compiler. -/
abbrev Compiler := Invocation → Answer

/-- Reads the source map that a compiler left. -/
def MapFile.read (path : String) : MapFile → Except Trace SourceMap
  | .absent =>
    .error ⟨s!"Failed to read source map {path}", ["No such file or directory (os error 2)"]⟩
  | .binary =>
    .error ⟨s!"Failed to read source map {path}", ["stream did not contain valid UTF-8"]⟩
  | .text contents => (SourceMap.ofJson contents).mapError fun e => ⟨e.message, []⟩

/-- Runs a compiler over a prepared chunk: the repaired text and the source map. -/
def Session.compile (session : Session) (format : OutputFormat) (chunk : Chunk)
    (passes : List ChunkPass) (compiler : Compiler) (assembled : Assembled) :
    Except Failure Output := do
  let answer := compiler assembled.invocation
  let code ← answer.code.mapError (⟨.compilation, ·⟩)
  let code ← (ChunkPass.restoreChunk session format chunk passes code).mapError
    fun failed => ⟨.postCompilation, failed.restoreTrace⟩
  let map ← (answer.map.read (ScratchFile.mapPath assembled.map)).mapError (⟨.sourceMap, ·⟩)
  return { code, map := some map }

end ChunkBridge
