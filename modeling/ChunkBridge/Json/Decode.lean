import ChunkBridge.Json.Read

/-!
# Decoding JSON

From a document to a value of another type. A decoder goes through the tree in the order of the
text and stops at the first thing that is wrong, be it the text or its meaning.
-/

namespace ChunkBridge.Json

/-- Why a document has no value of the type asked for. -/
inductive Problem where
  /-- The text is no JSON. -/
  | fault (fault : Fault)
  /-- A value of another kind stands where `expected` should. -/
  | wrongType (found : Value) (expected : String)
  | missingField (name : String)
  | duplicateField (name : String)
  | unknownVariant (found : String) (known : List String)
  /-- An array has too few items. -/
  | wrongLength (length : Nat) (expected : String)
  /-- A value has none of the shapes that `type` allows. -/
  | noVariant (type : String)
deriving Inhabited

/-- A name between back quotes. -/
def quotedName (name : String) : String := "\x60" ++ name ++ "\x60"

/-- The wording of a problem; faults of the text are not told apart here. -/
def Problem.message : Problem → String
  | .fault _ => "invalid JSON"
  | .wrongType found expected => s!"invalid type: {found.described}, expected {expected}"
  | .missingField name => "missing field " ++ quotedName name
  | .duplicateField name => "duplicate field " ++ quotedName name
  | .unknownVariant found known =>
    "unknown variant " ++ quotedName found ++ ", expected one of " ++
      ", ".intercalate (known.map quotedName)
  | .wrongLength length expected => s!"invalid length {length}, expected {expected}"
  | .noVariant type => s!"data did not match any variant of untagged enum {type}"

/-- A way to read a value. -/
abbrev Decoder (α : Type) := Value → Except Problem α

namespace Decoder

/-- Refuses a value that is not of the kind asked for. -/
def refuse (expected : String) : Decoder α
  | .broken fault => .error (.fault fault)
  | .void => .error (.fault .malformed)
  | v => .error (.wrongType v expected)

/-- Stops where a text broke. -/
def checkFault (fault : Option Fault) : Except Problem Unit :=
  match fault with
  | some fault => .error (.fault fault)
  | none => .ok ()

def text : Decoder String
  | .string value => .ok value
  | v => refuse "a string" v

/-- A value that may be `null`. -/
def nullable (decoder : Decoder α) : Decoder (Option α)
  | .null => .ok none
  | v => some <$> decoder v

/-- A value that does not matter. -/
def ignored : Decoder Unit := fun v => checkFault (v.fault? false)

/-- A value of whatever kind that is whole. -/
def whole : Decoder Value := fun v => do
  checkFault (v.fault? true)
  return v

/-- A list of values. -/
def list (decoder : Decoder α) : Decoder (List α)
  | .array items fault => do
    let values ← items.mapM decoder
    checkFault fault
    return values
  | v => refuse "a sequence" v

/-- A field that may be given once. -/
def once (field : String) (known : Option α) (decoder : Decoder α) (v : Value) :
    Except Problem (Option α) :=
  if known.isSome then .error (.duplicateField field) else some <$> decoder v

/-- Decodes a text as a whole. -/
def run (decoder : Decoder α) (text : String) : Except Problem α := do
  let document := Document.read text
  let value ← decoder document.value
  if document.hasMore then .error (.fault .malformed)
  return value

end Decoder
end ChunkBridge.Json
