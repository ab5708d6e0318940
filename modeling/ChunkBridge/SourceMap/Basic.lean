import ChunkBridge.SourceMap.Vlq
import ChunkBridge.Text.Quoted

/-!
# Source maps

Which place of a source a place in a generated text comes from. Lines and columns count from
zero, columns in UTF-16 code units.
-/

namespace ChunkBridge

namespace SourceMap

/-- A place in a text. -/
structure Position where
  line : Nat := 0
  column : Nat := 0
deriving Repr, DecidableEq, Inhabited

/-- The place behind a character. -/
def Position.step (p : Position) (c : Char) : Position :=
  if c == '\n' then ⟨p.line + 1, 0⟩
  else ⟨p.line, p.column + if c.toNat < 0x10000 then 1 else 2⟩

/-- The place behind some characters. -/
def Position.advance (p : Position) (cs : List Char) : Position := cs.foldl step p

/-- Where a place comes from. -/
structure Origin where
  source : Nat
  position : Position
  name : Option Nat := none
deriving Repr, DecidableEq, Inhabited

/-- A place in the generated text, and where it comes from if it comes from anywhere. -/
structure Token where
  generated : Position
  origin : Option Origin
deriving Repr, DecidableEq, Inhabited

end SourceMap

/-- A source map with its tokens in the order of the generated text. -/
structure SourceMap where
  file : Option String := none
  sourceRoot : Option String := none
  names : List String := []
  sources : List String := []
  /-- The texts of the sources. -/
  contents : Option (List String) := none
  tokens : List SourceMap.Token := []
  debugId : Option String := none
deriving Repr, DecidableEq, Inhabited

namespace SourceMap

/-! ## Writing mappings -/

/-- What the numbers of the next segment are counted from. -/
structure Last where
  generated : Position := {}
  source : Nat := 0
  position : Position := {}
  name : Nat := 0

/-- A number as its difference to the one before. -/
def difference (n last : Nat) : List Char := Vlq.encode (n - last)

/-- The part of a segment that says where it comes from. -/
def originSegment (last : Last) : Option Origin → List Char × Last
  | none => ([], last)
  | some ⟨source, position, name⟩ =>
    let text := difference source last.source ++ difference position.line last.position.line ++
      difference position.column last.position.column
    let last := { last with source, position }
    match name with
    | none => (text, last)
    | some name => (text ++ difference name last.name, { last with name })

/-- The mappings of tokens behind `previous`. A token that repeats the one before is left out. -/
def mappingsFrom (last : Last) (previous : Option Token) : List Token → List Char
  | [] => []
  | t :: ts =>
    let breaks := t.generated.line - last.generated.line
    if breaks == 0 && previous == some t then mappingsFrom last previous ts
    else
      let separator :=
        if breaks > 0 then List.replicate breaks ';'
        else if previous.isSome then [','] else []
      let column := if breaks > 0 then 0 else last.generated.column
      let (origin, next) := originSegment last t.origin
      separator ++ difference t.generated.column column ++ origin ++
        mappingsFrom { next with generated := t.generated } (some t) ts

/-- The mappings of a source map as text. -/
def mappings (map : SourceMap) : String := String.ofList (mappingsFrom {} none map.tokens)

/-! ## Writing source maps -/

/-- A list of texts in JSON. -/
def jsonList (texts : List String) : String :=
  "[" ++ ",".intercalate (texts.map Text.jsonQuoted) ++ "]"

/-- The source map in JSON. The name of the file, the root and the id stand as they are, without
escapes. -/
def toJson (map : SourceMap) : String :=
  let bare (key : String) (text : Option String) : List String :=
    (text.map fun text => s!"\"{key}\":\"{text}\"").toList
  let parts := ["\"version\":3"] ++ bare "file" map.file ++ bare "sourceRoot" map.sourceRoot ++
    ["\"names\":" ++ jsonList map.names, "\"sources\":" ++ jsonList map.sources] ++
    (map.contents.map fun texts => "\"sourcesContent\":" ++ jsonList texts).toList ++
    ["\"mappings\":\"" ++ map.mappings ++ "\""] ++ bare "debugId" map.debugId
  "\x7b" ++ ",".intercalate parts ++ "\x7d"

end SourceMap
end ChunkBridge
