import ChunkBridge.Text.HiddenRanges
import ChunkBridge.Text.Identifier

/-!
# Quoted texts

Two ways to write a text between double quotes. `jsonQuoted` is the JSON form: quote, backslash
and control characters are escaped and everything else stands for itself. `shown` is the form
for people: characters that would not show are written by number as well.
-/

namespace ChunkBridge.Text

/-- The lower-case hexadecimal digit of a number below sixteen. -/
def hexDigit (n : Nat) : Char :=
  if n < 10 then Char.ofNat (48 + n) else Char.ofNat (87 + n)

/-- The lowest `width` hexadecimal digits of a number. -/
def hexDigits : Nat → Nat → List Char
  | 0, _ => []
  | width + 1, n => hexDigits width (n / 16) ++ [hexDigit (n % 16)]

/-- One character inside a JSON string. -/
def jsonEscape (c : Char) : List Char :=
  if c == '"' then ['\\', '"']
  else if c == '\\' then ['\\', '\\']
  else if c == '\x08' then ['\\', 'b']
  else if c == '\x0c' then ['\\', 'f']
  else if c == '\n' then ['\\', 'n']
  else if c == '\r' then ['\\', 'r']
  else if c == '\t' then ['\\', 't']
  else if c.toNat < 32 then '\\' :: 'u' :: hexDigits 4 c.toNat
  else [c]

/-- The text as a JSON string. -/
def jsonQuoted (text : String) : String :=
  String.ofList ('"' :: (text.toList.flatMap jsonEscape ++ ['"']))

/-- How many hexadecimal digits a code point takes without leading zeros. -/
def hexWidth (n : Nat) : Nat :=
  if n < 0x10 then 1
  else if n < 0x100 then 2
  else if n < 0x1000 then 3
  else if n < 0x10000 then 4
  else if n < 0x100000 then 5
  else 6

/-- The character does not show, so it is written by number. -/
def isHidden (c : Char) : Bool :=
  if c.toNat < 128 then c.toNat < 32 || c.toNat == 127 else inRanges hiddenRanges c.toNat

/-- One character inside a quoted text for people. -/
def shownEscape (c : Char) : List Char :=
  if c == '"' then ['\\', '"']
  else if c == '\\' then ['\\', '\\']
  else if c == '\x00' then ['\\', '0']
  else if c == '\n' then ['\\', 'n']
  else if c == '\r' then ['\\', 'r']
  else if c == '\t' then ['\\', 't']
  else if isHidden c then
    ['\\', 'u', '\x7b'] ++ hexDigits (hexWidth c.toNat) c.toNat ++ ['\x7d']
  else [c]

/-- The text quoted for people. -/
def shown (text : String) : String :=
  String.ofList ('"' :: (text.toList.flatMap shownEscape ++ ['"']))

/-- The quoted texts of a list, between square brackets. -/
def shownList (texts : List String) : String :=
  "[" ++ ", ".intercalate (texts.map shown) ++ "]"

/-- A name as it stands in an import or export clause: itself when it is an identifier name,
else a string. -/
def clauseName (name : String) : String :=
  if isIdentifierName name.toList then name else jsonQuoted name

end ChunkBridge.Text
