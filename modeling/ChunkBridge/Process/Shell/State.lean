import ChunkBridge.Config.Table
import ChunkBridge.Process.Shell.Command
import ChunkBridge.Text.Utf8

/-!
# The state of a shell

Its files, variables and arguments, and what it has written so far, in order.
-/

namespace ChunkBridge

/-- The contents of files by path. -/
abbrev Files := Table (List UInt8)

/-- How a process ends. -/
inductive Ending where
  | exited (status : Nat)
  | killed (signal : Nat)
deriving Repr, DecidableEq, Inhabited

namespace Shell
open ChunkBridge.Text

/-- Bytes written to an output. -/
structure Write where
  descriptor : Nat
  bytes : List UInt8

structure State where
  files : Files := {}
  /-- The values of the variables. -/
  settings : Table String := {}
  /-- The name of the script. -/
  zero : String := ""
  arguments : List String := []
  /-- The status of the last command. -/
  status : Nat := 0
  input : List UInt8 := []
  writes : List Write := []

/-- A shell that has come to its end. -/
structure Stop where
  ending : Ending
  state : State

/-- The number of the process. -/
def processNumber : String := "1"

namespace State

/-- Writes bytes to an output. -/
def write (s : State) (descriptor : Nat) (bytes : List UInt8) : State :=
  if bytes.isEmpty then s else { s with writes := s.writes ++ [⟨descriptor, bytes⟩] }

/-- Ends a command with a status. -/
def finish (s : State) (status : Nat) : State := { s with status }

/-- Ends a command with an error. -/
def complain (s : State) (status : Nat) (message : String) : State :=
  (s.write 2 (Utf8.encode (message ++ "\n"))).finish status

/-- Everything that was written to an output. -/
def written (s : State) (descriptor : Nat) : List UInt8 :=
  (s.writes.filter fun w => w.descriptor == descriptor).flatMap Write.bytes

/-- The value of a parameter. -/
def value (s : State) (name : String) : String :=
  match name with
  | "0" => s.zero
  | "#" => toString s.arguments.length
  | "@" | "*" => " ".intercalate s.arguments
  | "$" => processNumber
  | "?" => toString s.status
  | name =>
    match name.toNat? with
    | some n => s.arguments.getD (n - 1) ""
    | none => (s.settings.get? name).getD ""

end State

/-! ## Patterns -/

/-- A part of a pattern. -/
inductive Wild where
  | char (c : Char)
  /-- Any character. -/
  | any
  /-- Any text. -/
  | all
deriving Repr, DecidableEq

/-- The text fits the pattern. -/
def fits : List Wild → List Char → Bool
  | [], cs => cs.isEmpty
  | .char c :: ps, d :: cs => c == d && fits ps cs
  | .any :: ps, _ :: cs => fits ps cs
  | .char _ :: _, [] | .any :: _, [] => false
  | .all :: ps, cs => (List.range (cs.length + 1)).any fun n => fits ps (cs.drop n)

/-- An unquoted character of a pattern. -/
def wild : Char → Wild
  | '*' => .all
  | '?' => .any
  | c => .char c

/-- The value of a parameter without what is cut from it. -/
def Trim.apply (t : Trim) (text : String) : String :=
  let cs := text.toList
  let pattern := t.pattern.map wild
  let lengths := List.range (cs.length + 1)
  let lengths := if t.longest then lengths.reverse else lengths
  let rest (n : Nat) : List Char := if t.fromFront then cs.drop n else cs.take (cs.length - n)
  let cut (n : Nat) : List Char := if t.fromFront then cs.take n else cs.drop (cs.length - n)
  match lengths.find? fun n => fits pattern (cut n) with
  | some n => String.ofList (rest n)
  | none => text

/-! ## Words -/

namespace State

/-- The value of a parameter in a word. -/
def parameter (s : State) (name : String) (trim : Option Trim) : String :=
  match trim with
  | some t => t.apply (s.value name)
  | none => s.value name

/-- A word as one text. -/
def text (s : State) (w : Word) : String :=
  String.ofList <| w.flatMap fun
    | .char c _ => [c]
    | .blank => []
    | .parameter name trim _ => (s.parameter name trim).toList

/-- A word as a pattern. -/
def pattern (s : State) (w : Word) : List Wild :=
  w.flatMap fun
    | .char c quoted => [if quoted then .char c else wild c]
    | .blank => []
    | .parameter name trim quoted =>
      (s.parameter name trim).toList.map fun c => if quoted then .char c else wild c

/-- The fields of a word while it is put together; the last one may not have begun. -/
structure Fields where
  done : List String := []
  current : Option (List Char) := none

/-- Adds characters to the last field. -/
def Fields.add (f : Fields) (cs : List Char) : Fields :=
  { f with current := some (f.current.getD [] ++ cs) }

/-- Ends the last field. -/
def Fields.close (f : Fields) : Fields :=
  match f.current with
  | some cs => ⟨f.done ++ [String.ofList cs], none⟩
  | none => f

/-- Adds a text whose blanks part fields. -/
def Fields.addSplit (f : Fields) (cs : List Char) : Fields :=
  cs.foldl (fun f c => if c == ' ' || c == '\t' || c == '\n' then f.close else f.add [c]) f

/-- Adds the arguments, each a field of its own. -/
def Fields.addEach (f : Fields) : List String → Fields
  | [] => f
  | [last] => f.add last.toList
  | text :: more => addEach (f.add text.toList).close more

/-- The fields of a word. -/
def fields (s : State) (w : Word) : List String :=
  let add (f : Fields) : Part → Fields
    | .char c _ => f.add [c]
    | .blank => f.add []
    | .parameter "@" none true => f.addEach s.arguments
    | .parameter name trim true => f.add (s.parameter name trim).toList
    | .parameter name trim false => f.addSplit (s.parameter name trim).toList
  let isArguments := w.any fun part => part == .parameter "@" none true
  let w := if isArguments then w.filter (· != .blank) else w
  (w.foldl add {}).close.done

end State
end Shell
end ChunkBridge
