import ChunkBridge.Json.Decode
import ChunkBridge.SourceMap.Basic

/-!
# Reading source maps

A source map written by another tool. What it says about itself is not kept; its mappings have to
name sources and names that are there.
-/

namespace ChunkBridge.SourceMap
open Json (Value Problem Decoder)

/-- Why a text is no source map. -/
inductive ReadError where
  /-- It is no JSON of the right shape. -/
  | badJson
  | vlq (fault : Vlq.Fault)
  | badSegmentSize (size : Nat)
  | badSourceReference (index : Nat)
  | badNameReference (index : Nat)
deriving Repr, DecidableEq

/-- The short form of an error. -/
def ReadError.code : ReadError → String
  | .badJson => "BadJson"
  | .vlq .leftover => "VlqLeftover"
  | .vlq .noValues => "VlqNoValues"
  | .vlq .overflow => "VlqOverflow"
  | .badSegmentSize n => s!"BadSegmentSize({n})"
  | .badSourceReference n => s!"BadSourceReference({n})"
  | .badNameReference n => s!"BadNameReference({n})"

/-- The wording of an error. -/
def ReadError.message (e : ReadError) : String := s!"Invalid source map: {e.code}"

/-! ## Mappings -/

/-- A count moved by a difference, in 32 bits. -/
def move (n : Nat) (difference : Int) : Nat := ((n + difference) % Nat.pow 2 32).toNat

/-- Reads a segment behind others: its token, and what the next one is counted from. -/
def segment (names sources line : Nat) (last : Last) (text : List Char) :
    Except ReadError (Token × Last) := do
  let numbers ← (Vlq.decode text).mapError .vlq
  let number (i : Nat) : Int := numbers.getD i 0
  let generated : Position := ⟨line, move last.generated.column (number 0)⟩
  let last := { last with generated }
  let size := numbers.length
  if size == 1 then return (⟨generated, none⟩, last)
  if size != 4 && size != 5 then .error (.badSegmentSize size)
  let source := move last.source (number 1)
  if source ≥ sources then .error (.badSourceReference source)
  let position : Position :=
    ⟨move last.position.line (number 2), move last.position.column (number 3)⟩
  let last := { last with source, position }
  if size == 4 then return (⟨generated, some ⟨source, position, none⟩⟩, last)
  let name := move last.name (number 4)
  if name ≥ names then .error (.badNameReference name)
  return (⟨generated, some ⟨source, position, some name⟩⟩, { last with name })

/-- Reads the segments of a line. -/
def segments (names sources line : Nat) (last : Last) :
    List (List Char) → Except ReadError (List Token × Last)
  | [] => .ok ([], last)
  | text :: texts =>
    if text.isEmpty then segments names sources line last texts
    else do
      let (token, last) ← segment names sources line last text
      let (tokens, last) ← segments names sources line last texts
      return (token :: tokens, last)

/-- Reads lines of segments, the first of them with number `line`. -/
def lines (names sources : Nat) (line : Nat) (last : Last) :
    List (List Char) → Except ReadError (List Token)
  | [] => .ok []
  | text :: texts => do
    let last := { last with generated := ⟨line, 0⟩ }
    let (tokens, last) ← segments names sources line last (text.splitOn ',')
    return tokens ++ (← lines names sources (line + 1) last texts)

/-- The tokens of mappings, for maps with so many names and sources. -/
def tokensOf (names sources : Nat) (mappings : String) : Except ReadError (List Token) :=
  lines names sources 0 {} (mappings.toList.splitOn ';')

/-! ## Documents -/

/-- What a source map is read from. -/
structure Raw where
  file : Option (Option String) := none
  mappings : Option String := none
  sourceRoot : Option (Option String) := none
  sources : Option (List String) := none
  contents : Option (Option (List (Option String))) := none
  names : Option (List String) := none
  debugId : Option (Option String) := none

/-- Decodes a member that may be `null`. -/
def optionalText : Decoder (Option String) := Decoder.nullable Decoder.text

/-- Decodes the texts of sources. -/
def optionalTexts : Decoder (Option (List (Option String))) :=
  Decoder.nullable (Decoder.list optionalText)

/-- The members of an object sorted out. -/
def Raw.ofMembers (raw : Raw) : List (String × Value) → Except Problem Raw
  | [] => .ok raw
  | (key, value) :: rest => do
    let raw ←
      match key with
      | "file" => do pure { raw with file := ← Decoder.once key raw.file optionalText value }
      | "mappings" => do
        pure { raw with mappings := ← Decoder.once key raw.mappings Decoder.text value }
      | "sourceRoot" => do
        pure { raw with sourceRoot := ← Decoder.once key raw.sourceRoot optionalText value }
      | "sources" => do
        pure { raw with sources := ← Decoder.once key raw.sources (Decoder.list Decoder.text) value }
      | "sourcesContent" => do
        pure { raw with contents := ← Decoder.once key raw.contents optionalTexts value }
      | "names" => do
        pure { raw with names := ← Decoder.once key raw.names (Decoder.list Decoder.text) value }
      | "debugId" => do
        pure { raw with debugId := ← Decoder.once key raw.debugId optionalText value }
      | _ => do
        Decoder.ignored value
        pure raw
    ofMembers raw rest

/-- The items of an array, which gives the members without their names. -/
def Raw.ofItems : List Value → Except Problem Raw
  | [file, mappings, sourceRoot, sources, contents, names, debugId] => do
    return { file := some (← optionalText file)
             mappings := some (← Decoder.text mappings)
             sourceRoot := some (← optionalText sourceRoot)
             sources := some (← Decoder.list Decoder.text sources)
             contents := some (← optionalTexts contents)
             names := some (← Decoder.list Decoder.text names)
             debugId := some (← optionalText debugId) }
  | items => .error (.wrongLength items.length "struct JSONSourceMap with 7 elements")

/-- Decodes the members of a source map. -/
def Raw.decoder : Decoder Raw
  | .object members fault => do
    let raw ← Raw.ofMembers {} members
    Decoder.checkFault fault
    return raw
  | .array items fault => do
    Decoder.checkFault fault
    Raw.ofItems items
  | v => Decoder.refuse "struct JSONSourceMap" v

/-- Reads a source map in JSON. -/
def ofJson (text : String) : Except ReadError SourceMap := do
  let raw ← (Raw.decoder.run text).mapError fun _ => .badJson
  match raw.mappings, raw.sources, raw.names with
  | some mappings, some sources, some names =>
    let tokens ← tokensOf names.length sources.length mappings
    return { file := raw.file.join, sourceRoot := raw.sourceRoot.join, names, sources
             contents := raw.contents.join.map (·.map (·.getD ""))
             tokens, debugId := raw.debugId.join }
  | _, _, _ => .error .badJson

end ChunkBridge.SourceMap
