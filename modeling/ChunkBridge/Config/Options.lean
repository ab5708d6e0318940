import ChunkBridge.Config.Flags
import ChunkBridge.Json.Decode

/-!
# Options

What the user configures: which modules and chunks are included, and the flags for the compiler.
Patterns are never flags; every other member of the object is one.
-/

namespace ChunkBridge
open Json (Problem Value Decoder)

/-- The patterns of a filter, given as one or as a list. -/
inductive Patterns where
  | one (pattern : String)
  | many (patterns : List String)
deriving Repr, DecidableEq, Inhabited

/-- All patterns. -/
def Patterns.toList : Patterns → List String
  | .one pattern => [pattern]
  | .many patterns => patterns

/-- What the user configures. -/
structure Options where
  /-- The patterns of what is included, if given. -/
  include? : Option Patterns := none
  exclude? : Option Patterns := none
  flags : Flags := {}
deriving Repr, DecidableEq, Inhabited

namespace Options

/-- The texts of a list of strings. -/
def texts? (items : List Value) : Option (List String) :=
  items.mapM fun
    | .string value => some value
    | _ => none

/-- A whole value as patterns. -/
def patterns? : Value → Option Patterns
  | .string pattern => some (.one pattern)
  | .array items _ => (texts? items).map .many
  | _ => none

/-- A whole value as the value of a flag. Numbers have no fraction and fit 64 bits. -/
def flagValue? : Value → Option FlagValue
  | .bool value => some (.bool value)
  | .int value =>
    if -0x8000000000000000 ≤ value && value < 0x8000000000000000 then some (.number value)
    else none
  | .string value => some (.text value)
  | .array items _ => (texts? items).map .list
  | _ => none

/-- Decodes patterns. -/
def patterns : Decoder Patterns := fun v => do
  match patterns? (← Decoder.whole v) with
  | some patterns => return patterns
  | none => .error (.noVariant "FilterPattern")

/-- Decodes the value of a flag. -/
def flagValue : Decoder FlagValue := fun v =>
  match flagValue? v with
  | some value => .ok value
  | none => .error (.noVariant "CompileOptionValue")

/-- The members of the object sorted out: patterns, and flags whose values are not yet looked
at. -/
structure Members where
  include? : Option (Option Patterns) := none
  exclude? : Option (Option Patterns) := none
  flags : List (String × Value) := []

/-- Sorts out the members of the object. -/
def sortMembers (known : Members) : List (String × Value) → Except Problem Members
  | [] => .ok { known with flags := known.flags.reverse }
  | (key, value) :: rest => do
    if key == "include" then
      let include? ← Decoder.once key known.include? (Decoder.nullable patterns) value
      sortMembers { known with include? } rest
    else if key == "exclude" then
      let exclude? ← Decoder.once key known.exclude? (Decoder.nullable patterns) value
      sortMembers { known with exclude? } rest
    else
      let value ← Decoder.whole value
      sortMembers { known with flags := (key, value) :: known.flags } rest

/-- Decodes options. Flags are looked at once the whole object is known. -/
def decoder : Decoder Options
  | .object members fault => do
    let members ← sortMembers {} members
    Decoder.checkFault fault
    let flags ← members.flags.mapM fun (key, value) => return (key, ← flagValue value)
    return { include? := members.include?.join, exclude? := members.exclude?.join,
             flags := .ofList flags }
  | v => Decoder.refuse "struct ClosureCompilerOptions" v

/-- The options in a JSON text. -/
def ofJson (text : String) : Except Problem Options := decoder.run text

end Options
end ChunkBridge
