import ChunkBridge.Json.Decode

/-!
# What a bundle is made of

Its entries, the format of its output, and what is known of a chunk when it is rendered.
-/

namespace ChunkBridge
open Json (Problem Value Decoder)

/-- How the chunks of a bundle are tied together. -/
inductive OutputFormat where
  | esm
  | cjs
  | iife
deriving Repr, DecidableEq, Inhabited

namespace OutputFormat

/-- The word for a format. -/
def name : OutputFormat → String
  | .esm => "esm"
  | .cjs => "cjs"
  | .iife => "iife"

/-- Chunks are modules. -/
def isEsm (format : OutputFormat) : Bool := format == .esm

def all : List OutputFormat := [.esm, .cjs, .iife]

/-- The format that a word stands for. -/
def ofName (text : String) : Except Problem OutputFormat :=
  match all.find? fun format => format.name == text with
  | some format => .ok format
  | none => .error (.unknownVariant text (all.map name))

/-- Decodes a format: its word, or an object with the word as its only member. -/
def decoder : Decoder OutputFormat
  | .string text => ofName text
  | .object ((key, value) :: more) fault => do
    let format ← ofName key
    match value with
    | .null => pure ()
    | v => Decoder.refuse "unit" v
    Decoder.checkFault (if more.isEmpty then fault else some .malformed)
    return format
  | .object [] (some fault) => .error (.fault fault)
  | .broken fault => .error (.fault fault)
  | _ => .error (.fault .malformed)

end OutputFormat

/-- An entry of a bundle. -/
structure InputItem where
  /-- The name of the chunk that is made for it. -/
  name : Option String := none
  path : String
deriving Repr, DecidableEq, Inhabited

namespace InputItem

/-- Decodes the members of an entry. -/
def ofMembers (name : Option (Option String)) (path : Option String) (fault : Option Json.Fault) :
    List (String × Value) → Except Problem InputItem
  | [] => do
    Decoder.checkFault fault
    match path with
    | some path => return { name := name.join, path }
    | none => .error (.missingField "import")
  | (key, value) :: rest => do
    if key == "name" then
      ofMembers (← Decoder.once key name (Decoder.nullable Decoder.text) value) path fault rest
    else if key == "import" then
      ofMembers name (← Decoder.once key path Decoder.text value) fault rest
    else
      Decoder.ignored value
      ofMembers name path fault rest

/-- Decodes the items of an entry that is given as a list. -/
def ofItems (fault : Option Json.Fault) : List Value → Except Problem InputItem
  | [] => do
    Decoder.checkFault fault
    .error (.wrongLength 0 "struct InputItem with 2 elements")
  | name :: rest => do
    let name ← Decoder.nullable Decoder.text name
    match rest with
    | [] =>
      Decoder.checkFault fault
      .error (.wrongLength 1 "struct InputItem with 2 elements")
    | path :: more =>
      let path ← Decoder.text path
      Decoder.checkFault (if more.isEmpty then fault else some .malformed)
      return { name, path }

/-- Decodes an entry. -/
def decoder : Decoder InputItem
  | .object members fault => ofMembers none none fault members
  | .array items fault => ofItems fault items
  | v => Decoder.refuse "struct InputItem" v

end InputItem

/-- What a bundler hands to its plugins before a build. -/
structure InputOptions where
  input : List InputItem := []
  /-- The directory that relative patterns are meant from. -/
  cwd : String := "."
deriving Repr, DecidableEq, Inhabited

/-- Several entries make several chunks. -/
def InputOptions.isCodeSplitting (options : InputOptions) : Bool := options.input.length > 1

/-- A chunk that is rendered. -/
structure Chunk where
  name : String := ""
  fileName : String := ""
  /-- The entry module that the chunk is made for. -/
  facade : Option String := none
deriving Repr, DecidableEq, Inhabited

end ChunkBridge
