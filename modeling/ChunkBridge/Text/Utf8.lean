/-!
# UTF-8

Texts as bytes and back. Bytes that are no text are told by where they go wrong; `decodeLossy`
puts a replacement character in the place of each faulty sequence.
-/

namespace ChunkBridge.Text.Utf8

/-- The bytes of a text. -/
def encode (text : String) : List UInt8 := text.toUTF8.toList

/-- The byte goes on with a sequence. -/
def isContinuation (b : UInt8) : Bool := 0x80 ≤ b && b ≤ 0xBF

/-- How many bytes a sequence takes that begins with a byte; zero if none does. -/
def width (b : UInt8) : Nat :=
  if b < 0x80 then 1
  else if 0xC2 ≤ b && b ≤ 0xDF then 2
  else if 0xE0 ≤ b && b ≤ 0xEF then 3
  else if 0xF0 ≤ b && b ≤ 0xF4 then 4
  else 0

/-- The second byte may follow the first one: no sequence is longer than it has to be, stands for
half of a surrogate pair or lies beyond the last code point. -/
def isSecond (first b : UInt8) : Bool :=
  if first == 0xE0 then 0xA0 ≤ b && b ≤ 0xBF
  else if first == 0xED then 0x80 ≤ b && b ≤ 0x9F
  else if first == 0xF0 then 0x90 ≤ b && b ≤ 0xBF
  else if first == 0xF4 then 0x80 ≤ b && b ≤ 0x8F
  else isContinuation b

/-- The bytes that a sequence has behind its first one, as far as they are right. -/
def rightBytes (first : UInt8) (rest : List UInt8) : List UInt8 :=
  match rest.take (width first - 1) with
  | [] => []
  | b :: bs => if isSecond first b then b :: bs.takeWhile isContinuation else []

/-- The bits of the first byte that belong to the code point. -/
def leadBits (first : UInt8) : Nat :=
  match width first with
  | 2 => first.toNat % 0x20
  | 3 => first.toNat % 0x10
  | 4 => first.toNat % 0x08
  | _ => first.toNat

/-- The code point of a whole sequence. -/
def codePoint (first : UInt8) (rest : List UInt8) : Nat :=
  rest.foldl (fun n b => n * 0x40 + b.toNat % 0x40) (leadBits first)

/-- Where and how bytes are no text. -/
inductive Fault where
  /-- So many bytes from an index on begin no character. -/
  | invalid (length index : Nat)
  /-- The bytes end inside the character that begins at an index. -/
  | incomplete (index : Nat)
deriving Repr, DecidableEq

/-- The wording of the fault. -/
def Fault.message : Fault → String
  | .invalid length index => s!"invalid utf-8 sequence of {length} bytes from index {index}"
  | .incomplete index => s!"incomplete utf-8 byte sequence from index {index}"

/-- A sequence at the start of some bytes: its length, and its character if it is a whole one. -/
structure Sequence where
  length : Nat
  character : Option Char
  /-- The bytes end inside the sequence. -/
  isCut : Bool

/-- The sequence that a byte begins. -/
def sequenceAt (first : UInt8) (rest : List UInt8) : Sequence :=
  let right := rightBytes first rest
  let length := right.length + 1
  if length == width first then ⟨length, some (Char.ofNat (codePoint first right)), false⟩
  else ⟨length, none, length < width first && right.length == rest.length⟩

/-- The characters of some bytes, or where they go wrong; `index` counts the bytes before. -/
def decodeFrom (index : Nat) : List UInt8 → Except Fault (List Char)
  | [] => .ok []
  | b :: bs =>
    let s := sequenceAt b bs
    match s.character with
    | some c => return c :: (← decodeFrom (index + s.length) (bs.drop (s.length - 1)))
    | none => .error (if s.isCut then .incomplete index else .invalid s.length index)
termination_by bytes => bytes.length
decreasing_by simp only [List.length_drop, List.length_cons]; omega

/-- The text of some bytes. -/
def decode (bytes : List UInt8) : Except Fault String := String.ofList <$> decodeFrom 0 bytes

/-- The characters of some bytes, with a replacement character for each faulty sequence. -/
def lossyChars : List UInt8 → List Char
  | [] => []
  | b :: bs =>
    let s := sequenceAt b bs
    s.character.getD '\uFFFD' :: lossyChars (bs.drop (s.length - 1))
termination_by bytes => bytes.length
decreasing_by simp only [List.length_drop, List.length_cons]; omega

/-- The text of some bytes, with a replacement character for each faulty sequence. -/
def decodeLossy (bytes : List UInt8) : String := String.ofList (lossyChars bytes)

end ChunkBridge.Text.Utf8
