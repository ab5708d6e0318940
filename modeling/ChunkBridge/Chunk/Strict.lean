import ChunkBridge.Chunk.Fault
import ChunkBridge.Edit.Revision
import ChunkBridge.Script.Parse
import ChunkBridge.Text.Search

/-!
# Strict mode

A module is strict in any case, so a compiled module does not need to say it.
-/

namespace ChunkBridge.Strict
open ChunkBridge.Script ChunkBridge.Text

/-- The directive that asks for strict mode. -/
def directive : String := "use strict"

/-- The dialect of a chunk: plain, and a module if the output format has modules. -/
def chunkDialect (format : OutputFormat) : Dialect := { isModule := format.isEsm }

/-- The edits that take the directives out. -/
def edits (outline : Outline) : List Edit :=
  (outline.directives.filter fun d => d.value == directive).map fun d => { span := d.span }

/-- Takes the directives out of a compiled module. A text without their words is not looked at
any closer. -/
def restore (format : OutputFormat) (code : String) : Except PassFault String :=
  if !format.isEsm || !hasInfix directive.toList code.toList then .ok code
  else
    match Outline.ofSource (chunkDialect format) code with
    | .error e => .error (.unreadable e)
    | .ok outline => .ok (Revision.apply { edits := edits outline } code)

end ChunkBridge.Strict
