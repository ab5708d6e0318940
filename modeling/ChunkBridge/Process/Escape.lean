import ChunkBridge.Text.Utf8

/-!
# Escapes in printed texts

The texts that `echo` and `printf` print may name bytes by backslash escapes: letters for control
characters, and up to three octal digits, perhaps behind a zero. `\c` ends the text.
-/

namespace ChunkBridge.Escape
open ChunkBridge.Text

/-- The character is an octal digit. -/
def isOctal (c : Char) : Bool := '0' ≤ c && c ≤ '7'

/-- The byte that a letter behind a backslash stands for. -/
def letter? : Char → Option UInt8
  | '\\' => some 92
  | 'a' => some 7
  | 'b' => some 8
  | 'f' => some 12
  | 'n' => some 10
  | 'r' => some 13
  | 't' => some 9
  | 'v' => some 11
  | _ => none

/-- The value of octal digits. -/
def octal (digits : List Char) : UInt8 :=
  digits.foldl (fun n c => n * 8 + (c.toNat - 48).toUInt8) 0

/-- What is behind a backslash. -/
inductive Meaning where
  /-- The text ends here. -/
  | stop
  /-- Some characters stand for a byte. -/
  | byte (value : UInt8) (length : Nat)
  /-- The backslash stands for itself. -/
  | none

/-- The escape at the start of the characters behind a backslash. -/
def read : List Char → Meaning
  | [] => .none
  | 'c' :: _ => .stop
  | c :: cs =>
    let zero := c == '0' && cs.head?.any isOctal
    let digits := ((if zero then cs else c :: cs).takeWhile isOctal).take 3
    if !digits.isEmpty then .byte (octal digits) (digits.length + if zero then 1 else 0)
    else
      match letter? c with
      | some value => .byte value 1
      | none => .none

/-- Bytes that a text stands for. -/
structure Bytes where
  bytes : List UInt8
  /-- The text was ended by an escape. -/
  stopped : Bool := false

/-- Puts bytes in front. -/
def Bytes.after (front : List UInt8) (b : Bytes) : Bytes := { b with bytes := front ++ b.bytes }

/-- The bytes of a text with escapes; `skip` characters belong to an escape before. -/
def decodeFrom : Nat → List Char → Bytes
  | _, [] => ⟨[], false⟩
  | skip + 1, _ :: cs => decodeFrom skip cs
  | 0, '\\' :: cs =>
    match read cs with
    | .stop => ⟨[], true⟩
    | .byte value length => (decodeFrom length cs).after [value]
    | .none => (decodeFrom 0 cs).after [92]
  | 0, c :: cs => (decodeFrom 0 cs).after (Utf8.encode c.toString)

/-- The bytes of a text with escapes. -/
def decode (text : String) : Bytes := decodeFrom 0 text.toList

end ChunkBridge.Escape
