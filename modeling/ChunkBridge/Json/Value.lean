import ChunkBridge.Text.Decimal
import ChunkBridge.Text.Quoted

/-!
# JSON documents

A document is kept as far as it is well formed. Where the text breaks, the tree has a mark of the
fault in that place, so a decoder that walks the tree in order meets faults of the text and
faults of its meaning in the order in which they stand in the text.
-/

namespace ChunkBridge.Json

/-- How a text breaks. -/
inductive Fault where
  /-- A character that cannot stand in its place. -/
  | malformed
  /-- The text ends too early. -/
  | ended
deriving Repr, DecidableEq, Inhabited

inductive Value where
  | null
  | bool (value : Bool)
  | int (value : Int)
  /-- A number that is written with a fraction or an exponent, or that is out of the range of
  64-bit integers. -/
  | float (value : Text.Decimal)
  | string (value : String)
  /-- Items, and the fault that stands where another one could. -/
  | array (items : List Value) (fault : Option Fault)
  /-- Members in order, names repeated or not, and the fault that stands where another one
  could. -/
  | object (members : List (String × Value)) (fault : Option Fault)
  /-- A number or string that is well formed but stands for nothing. -/
  | void
  /-- The place where the text breaks. -/
  | broken (fault : Fault)
deriving Repr, Inhabited

namespace Value

mutual

/-- The first fault of a value; one that stands for nothing is malformed if `strict` is set. -/
def fault? (strict : Bool) : Value → Option Fault
  | .broken fault => some fault
  | .void => if strict then some .malformed else none
  | .array items fault => (itemsFault? strict items).or fault
  | .object members fault => (membersFault? strict members).or fault
  | _ => none

def itemsFault? (strict : Bool) : List Value → Option Fault
  | [] => none
  | v :: vs => (v.fault? strict).or (itemsFault? strict vs)

def membersFault? (strict : Bool) : List (String × Value) → Option Fault
  | [] => none
  | (_, v) :: vs => (v.fault? strict).or (membersFault? strict vs)

end

/-- What a value is, in words. -/
def described : Value → String
  | .null => "null"
  | .bool value => s!"boolean \x60{value}\x60"
  | .int value => s!"integer \x60{value}\x60"
  | .float value => "floating point \x60" ++ value.shortest ++ "\x60"
  | .string value => "string " ++ Text.shown value
  | .array .. => "sequence"
  | .object .. => "map"
  | .void | .broken _ => ""

end Value
end ChunkBridge.Json
