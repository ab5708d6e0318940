import ChunkBridge.Chunk.Exports
import ChunkBridge.Chunk.Hashbang
import ChunkBridge.Chunk.Imports
import ChunkBridge.Chunk.Strict

/-!
# Chunk passes

A chunk goes through its passes twice: before compilation each may revise it into something that
the compiler accepts, and afterwards each may repair the compiled text. In between a pass
remembers what it took out.
-/

namespace ChunkBridge
open ChunkBridge.Text ChunkBridge.Script

/-- A pass, with what it remembers of the chunk. -/
inductive ChunkPass where
  | strict
  | imports (memo : Imports)
  | exports (memo : Exports)
  | hashbang
deriving Repr, DecidableEq, Inhabited

namespace ChunkPass

/-- The name of a pass. -/
def name : ChunkPass → String
  | .strict => "StrictTransform"
  | .imports _ => "ImportTransform"
  | .exports _ => "ExportTransform"
  | .hashbang => "HashbangApplyTransform"

/-- The passes of a chunk, in order; only modules have imports and exports. Strict mode comes
first, for it is told by the very first statements, which restored imports would push down. -/
def ofFormat (format : OutputFormat) : List ChunkPass :=
  if format.isEsm then [.strict, .imports {}, .exports {}, .hashbang] else [.strict, .hashbang]

/-- The first half of a pass: what it remembers then, the ledger behind it, and its revision of
the chunk. -/
def prepare (unit : ChunkUnit) (ledger : Ledger) :
    ChunkPass → ChunkPass × Ledger × Except PassFault Revision
  | .imports _ =>
    let (memo, result) := Imports.prepare unit
    (.imports memo, ledger, result)
  | .exports _ =>
    let (memo, ledger, result) := Exports.prepare unit ledger
    (.exports memo, ledger, result)
  | pass => (pass, ledger, .ok {})

/-- The second half of a pass. -/
def restore (session : Session) (format : OutputFormat) (chunk : Chunk) (code : String) :
    ChunkPass → Except PassFault String
  | .strict => Strict.restore format code
  | .imports memo => .ok (memo.restore code)
  | .exports memo => memo.restore session.ledger chunk.fileName code
  | .hashbang => .ok (Hashbang.restore session.store chunk code)

/-- The declarations that the compiler has to know for a pass. -/
def externs : ChunkPass → List String
  | .imports memo => memo.externs
  | .strict | .exports _ | .hashbang => []

/-- The text of the externs of some passes, a line each and none of them twice; empty if there
are none. -/
def externsText (passes : List ChunkPass) : String :=
  "\n".intercalate (passes.flatMap externs).eraseDups

/-- A pass that cannot do its work. -/
structure Failed where
  pass : String
  fault : PassFault
deriving Repr, DecidableEq, Inhabited

/-- Why a chunk is not prepared. -/
inductive Refusal where
  /-- It is no script. -/
  | unreadable (error : OutlineError)
  | failed (failed : Failed)
deriving Repr, DecidableEq, Inhabited

/-- Why a chunk is not prepared, as a trace; a misplaced edit leaves none, since it is no fault of
the chunk and ends the whole build. -/
def Refusal.trace? : Refusal → Option Trace
  | .unreadable error => some error.trace
  | .failed ⟨_, .misplacedEdit⟩ => none
  | .failed ⟨pass, fault⟩ => some ⟨s!"{pass} failed before compilation", [fault.message]⟩

/-- Why a compiled chunk cannot be repaired, as a trace. -/
def Failed.restoreTrace (f : Failed) : Trace :=
  ⟨s!"{f.pass} failed after compilation", [f.fault.message]⟩

/-- A chunk after the first half of its passes. -/
structure Prepared where
  /-- The passes with what they remember, also if one of them failed. -/
  passes : List ChunkPass
  ledger : Ledger
  result : Except Refusal String

/-- Runs the first halves in order. -/
def prepareAll (unit : ChunkUnit) :
    List ChunkPass → Ledger → Buffer → List ChunkPass × Ledger × Except Failed Buffer
  | [], ledger, buffer => ([], ledger, .ok buffer)
  | pass :: rest, ledger, buffer =>
    match pass.prepare unit ledger with
    | (done, ledger, .error fault) => (done :: rest, ledger, .error ⟨pass.name, fault⟩)
    | (done, ledger, .ok revision) =>
      let (passes, ledger, result) := prepareAll unit rest ledger (buffer.revise revision)
      (done :: passes, ledger, result)

/-- Prepares a chunk for the compiler. -/
def prepareChunk (ledger : Ledger) (format : OutputFormat) (chunk : Chunk) (code : String) :
    Prepared :=
  let passes := ofFormat format
  match Outline.ofSource (Strict.chunkDialect format) code with
  | .error e => ⟨passes, ledger, .error (.unreadable e)⟩
  | .ok outline =>
    let (passes, ledger, result) := prepareAll ⟨chunk, code, outline⟩ passes ledger (.ofText code)
    ⟨passes, ledger, (result.map Buffer.text).mapError .failed⟩

/-- Repairs a compiled chunk. Each pass works on what the one before it left. -/
def restoreChunk (session : Session) (format : OutputFormat) (chunk : Chunk)
    (passes : List ChunkPass) (code : String) : Except Failed String :=
  passes.foldlM (fun code pass =>
    (pass.restore session format chunk code).mapError (⟨pass.name, ·⟩)) code

end ChunkPass
end ChunkBridge
