import ChunkBridge.Chunk.Fault
import ChunkBridge.Edit.Revision

/-!
# Imports around the compiler

A compiler would try to resolve what a chunk imports, so imports and exports of other modules'
names are taken out and put back on top afterwards. Until then the imported names are declared as
externs, which keeps the compiler from renaming them.
-/

namespace ChunkBridge
open ChunkBridge.Text ChunkBridge.Script

/-- What was taken out of a chunk. -/
structure Imports where
  /-- The imported names. -/
  locals : List String := []
  /-- The statements as they were written. -/
  statements : List String := []
deriving Repr, DecidableEq, Inhabited

namespace Imports

/-- The names that a statement imports; none if it stays in the chunk. -/
def locals? : ItemKind → Option (List String)
  | .imports locals => some locals
  | .reExport _ => some []
  | _ => none

/-- The statement is taken out. -/
def isTaken (item : Item) : Bool := (locals? item.kind).isSome

/-- What is taken out of a chunk. -/
def ofUnit (unit : ChunkUnit) : Imports where
  locals := unit.outline.items.flatMap fun item => (locals? item.kind).getD []
  statements := (unit.outline.items.filter isTaken).map fun item => slice unit.code item.span

/-- The edits that take the statements out. -/
def edits (outline : Outline) : List Edit :=
  (outline.items.filter isTaken).map fun item => { span := item.span }

/-- Takes the statements out of a chunk. -/
def prepare (unit : ChunkUnit) : Imports × Except PassFault Revision :=
  let edits := edits unit.outline
  (ofUnit unit,
    if edits.all (Edit.fits unit.code.toList) then .ok { edits } else .error .misplacedEdit)

/-- The declarations that the compiler has to know. -/
def externs (imports : Imports) : List String :=
  imports.locals.map fun name => "var " ++ name ++ ";"

/-- Puts the statements back on top. -/
def restore (imports : Imports) (code : String) : String :=
  if imports.statements.isEmpty then code
  else "\n".intercalate imports.statements ++ "\n" ++ code

end Imports
end ChunkBridge
