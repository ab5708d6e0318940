import ChunkBridge.Compile.Compiler

/-!
# Rendering chunks

A chunk is prepared, compiled and repaired. One that cannot be prepared is compiled as it is, and
nothing that a pass remembered of it reaches the later stages. Any other failure leaves the chunk
unchanged.
-/

namespace ChunkBridge

/-- A chunk after it was rendered. -/
structure Rendered where
  session : Session
  /-- Why the chunk was compiled as it is, if it was. -/
  refusal : Option Trace := none
  /-- What the compiler was called with, if it was. -/
  call : Option Invocation := none
  /-- What became of the chunk; nothing if a misplaced edit ended the build. -/
  outcome? : Option Outcome

namespace Session

/-- Compiles a prepared chunk. -/
def compilePrepared (session : Session) (format : OutputFormat) (chunk : Chunk)
    (compiler : Compiler) (passes : List ChunkPass) (code : String) (refusal : Option Trace) :
    Rendered :=
  match session.assemble format passes code with
  | (.error conflict, session) =>
    { session, refusal, outcome? := some (.failed ⟨.options, ⟨conflict.message, []⟩⟩) }
  | (.ok assembled, session) =>
    let outcome :=
      match session.compile format chunk passes compiler assembled with
      | .ok output => .transformed output
      | .error failure => .failed failure
    { session, refusal, call := some assembled.invocation, outcome? := some outcome }

/-- Renders a chunk. -/
def renderChunk (session : Session) (format : OutputFormat) (chunk : Chunk) (compiler : Compiler)
    (code : String) : Rendered :=
  let prepared := ChunkPass.prepareChunk session.ledger format chunk code
  let session := { session with ledger := prepared.ledger }
  match prepared.result with
  | .ok code => session.compilePrepared format chunk compiler prepared.passes code none
  | .error refusal =>
    match refusal.trace? with
    | none => { session, outcome? := none }
    | some trace =>
      session.compilePrepared format chunk compiler (ChunkPass.ofFormat format) code (some trace)

end Session
end ChunkBridge
