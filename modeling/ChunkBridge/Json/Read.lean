import ChunkBridge.Json.Value
import ChunkBridge.Text.Span

/-!
# Reading JSON

One pass over the characters. No fault is thrown: it is left in the tree where it was met.
-/

namespace ChunkBridge.Json
open ChunkBridge.Text

namespace Read

/-- What was read: a value and the text behind it, or nothing behind it once the text broke. -/
abbrev Reading (α : Type) := α × Option (List Char)

def isBlank (c : Char) : Bool := c == ' ' || c == '\n' || c == '\t' || c == '\r'

def skipBlanks (cs : List Char) : List Char := cs.dropWhile isBlank

/-- The value of a hexadecimal digit. -/
def hexValue? (c : Char) : Option Nat :=
  if '0' ≤ c && c ≤ '9' then some (c.toNat - 48)
  else if 'a' ≤ c && c ≤ 'f' then some (c.toNat - 87)
  else if 'A' ≤ c && c ≤ 'F' then some (c.toNat - 55)
  else none

/-- The number in the four hexadecimal digits ahead. -/
def hexUnit (cs : List Char) : Except Fault Nat :=
  if byteLength (cs.take 4) < 4 then .error .ended
  else
    match (cs.take 4).mapM hexValue? with
    | some [a, b, c, d] => .ok (((a * 16 + b) * 16 + c) * 16 + d)
    | _ => .error .malformed

/-- The character that a backslash and this character stand for. -/
def simpleEscape? : Char → Option Char
  | '"' => some '"'
  | '\\' => some '\\'
  | '/' => some '/'
  | 'b' => some '\x08'
  | 'f' => some '\x0c'
  | 'n' => some '\n'
  | 'r' => some '\r'
  | 't' => some '\t'
  | _ => none

/-- What an escape stands for, behind its backslash: the character, if the code unit or pair of
code units has one, and the number of characters read. -/
def escape (cs : List Char) : Except Fault (Option Char × Nat) :=
  match cs with
  | [] => .error .ended
  | 'u' :: cs => do
    let high ← hexUnit cs
    if 0xd800 ≤ high && high ≤ 0xdbff then
      match cs.drop 4 with
      | '\\' :: 'u' :: more =>
        let low ← hexUnit more
        if 0xdc00 ≤ low && low ≤ 0xdfff then
          return (some (Char.ofNat ((high - 0xd800) * 0x400 + (low - 0xdc00) + 0x10000)), 11)
        else return (none, 5)
      | _ => return (none, 5)
    else if 0xdc00 ≤ high && high ≤ 0xdfff then return (none, 5)
    else return (some (Char.ofNat high), 5)
  | c :: _ =>
    match simpleEscape? c with
    | some d => .ok (some d, 1)
    | none => .error .malformed

/-- Reads a string behind its opening quote; `skip` characters belong to an escape already
read. The text is missing when an escape stands for no character. -/
def string (skip : Nat) (acc : Option (List Char)) : List Char → Except Fault (Reading (Option String))
  | [] => .error .ended
  | c :: cs =>
    if skip > 0 then string (skip - 1) acc cs
    else if c == '"' then .ok (acc.map fun acc => String.ofList acc.reverse, some cs)
    else if c == '\\' then
      match escape cs with
      | .error fault => .error fault
      | .ok (d, width) => string width (do return (← d) :: (← acc)) cs
    else if c.toNat < 0x20 then .error .malformed
    else string 0 (acc.map (c :: ·)) cs

/-- The value of a run of decimal digits. -/
def natOf (digits : List Char) : Nat :=
  digits.foldl (fun n c => 10 * n + (c.toNat - 48)) 0

/-- At least one digit, and what is behind the digits. -/
def digits (cs : List Char) : Except Fault (List Char × List Char) :=
  match cs.takeWhile Char.isDigit with
  | [] => .error (if cs.isEmpty then .ended else .malformed)
  | run => .ok (run, cs.drop run.length)

/-- The exponent behind a number, if it has one. -/
def exponent (cs : List Char) : Except Fault (Option Int × List Char) :=
  match cs with
  | c :: cs =>
    if c == 'e' || c == 'E' then do
      let (negative, cs) :=
        match cs with
        | '-' :: cs => (true, cs)
        | '+' :: cs => (false, cs)
        | cs => (false, cs)
      let (run, cs) ← digits cs
      return (some (if negative then -natOf run else natOf run), cs)
    else .ok (none, c :: cs)
  | [] => .ok (none, [])

/-- The value of a number without a fraction or an exponent. -/
def integer (negative : Bool) (n : Nat) : Value :=
  if negative && 0 < n && n ≤ 0x8000000000000000 then .int (-n)
  else if !negative && n < 0x10000000000000000 then .int n
  else
    let value : Decimal := ⟨negative, n, 0⟩
    if value.isFinite then .float value else .void

/-- Reads a number. -/
def number (cs : List Char) : Except Fault (Reading Value) := do
  let (negative, cs) :=
    match cs with
    | '-' :: cs => (true, cs)
    | cs => (false, cs)
  let (whole, cs) ← digits cs
  if whole.length > 1 && whole.head? == some '0' then .error .malformed
  let (fraction, cs) ←
    match cs with
    | '.' :: cs => do
      let (run, cs) ← digits cs
      pure (some run, cs)
    | cs => pure (none, cs)
  let (power, cs) ← exponent cs
  if fraction.isNone && power.isNone then return (integer negative (natOf whole), some cs)
  let run := fraction.getD []
  let value : Decimal := ⟨negative, natOf (whole ++ run), power.getD 0 - run.length⟩
  return (if value.isFinite then .float value else .void, some cs)

/-- Reads a word that stands for a value. -/
def word (value : Value) : List Char → List Char → Reading Value
  | [], cs => (value, some cs)
  | _ :: _, [] => (.broken .ended, none)
  | w :: ws, c :: cs => if c == w then word value ws cs else (.broken .malformed, none)

/-- The reading of a value that breaks off. -/
def broken (fault : Fault) : Reading Value := (.broken fault, none)

mutual

/-- Reads a value; `depth` is how many brackets may still be opened. -/
def value (fuel depth : Nat) (cs : List Char) : Reading Value :=
  match fuel with
  | 0 => broken .malformed
  | fuel + 1 =>
    match skipBlanks cs with
    | [] => broken .ended
    | 'n' :: cs => word .null "ull".toList cs
    | 't' :: cs => word (.bool true) "rue".toList cs
    | 'f' :: cs => word (.bool false) "alse".toList cs
    | '"' :: cs =>
      match string 0 (some []) cs with
      | .ok (text, rest) => (text.elim .void .string, rest)
      | .error fault => broken fault
    | '[' :: cs =>
      if depth ≤ 1 then broken .malformed
      else
        let ((items, fault), rest) := elements fuel (depth - 1) true cs
        (.array items fault, rest)
    | '\x7b' :: cs =>
      if depth ≤ 1 then broken .malformed
      else
        let ((items, fault), rest) := members fuel (depth - 1) true cs
        (.object items fault, rest)
    | c :: cs =>
      if c == '-' || c.isDigit then
        match number (c :: cs) with
        | .ok reading => reading
        | .error fault => broken fault
      else broken .malformed

/-- Reads the items of an array. -/
def elements (fuel depth : Nat) (first : Bool) (cs : List Char) :
    Reading (List Value × Option Fault) :=
  match fuel with
  | 0 => (([], some .malformed), none)
  | fuel + 1 =>
    let item (cs : List Char) : Reading (List Value × Option Fault) :=
      match value fuel depth cs with
      | (v, none) => (([v], none), none)
      | (v, some cs) =>
        let ((vs, fault), rest) := elements fuel depth false cs
        ((v :: vs, fault), rest)
    match skipBlanks cs with
    | [] => (([], some .ended), none)
    | ']' :: cs => (([], none), some cs)
    | c :: cs =>
      if first then item (c :: cs)
      else if c != ',' then (([], some .malformed), none)
      else
        match skipBlanks cs with
        | [] => (([], some .ended), none)
        | ']' :: _ => (([], some .malformed), none)
        | cs => item cs

/-- Reads the members of an object. -/
def members (fuel depth : Nat) (first : Bool) (cs : List Char) :
    Reading (List (String × Value) × Option Fault) :=
  match fuel with
  | 0 => (([], some .malformed), none)
  | fuel + 1 =>
    let fail (fault : Fault) : Reading (List (String × Value) × Option Fault) :=
      (([], some fault), none)
    let named (name : String) (cs : List Char) : Reading (List (String × Value) × Option Fault) :=
      match skipBlanks cs with
      | [] => (([(name, .broken .ended)], none), none)
      | ':' :: cs =>
        match value fuel depth cs with
        | (v, none) => (([(name, v)], none), none)
        | (v, some cs) =>
          let ((vs, fault), rest) := members fuel depth false cs
          (((name, v) :: vs, fault), rest)
      | _ => (([(name, .broken .malformed)], none), none)
    let member (cs : List Char) : Reading (List (String × Value) × Option Fault) :=
      match cs with
      | [] => fail .ended
      | '"' :: cs =>
        match string 0 (some []) cs with
        | .ok (some name, some cs) => named name cs
        | .ok _ => fail .malformed
        | .error fault => fail fault
      | _ => fail .malformed
    match skipBlanks cs with
    | [] => fail .ended
    | '\x7d' :: cs => (([], none), some cs)
    | c :: cs =>
      if first then member (c :: cs)
      else if c != ',' then fail .malformed
      else member (skipBlanks cs)

end

end Read

/-- A text that was read as JSON. -/
structure Document where
  value : Value
  /-- Something stands behind the value. -/
  hasMore : Bool

/-- Reads a text. -/
def Document.read (text : String) : Document :=
  let cs := text.toList
  match Read.value (2 * cs.length + 2) 128 cs with
  | (value, rest) => ⟨value, rest.any fun cs => !(Read.skipBlanks cs).isEmpty⟩

end ChunkBridge.Json
