/-!
# Split arguments

How the program `env` splits one argument into several: at blanks, except inside quotes; a
backslash escapes the character behind it or stands for a control character with it. Inside
single quotes a backslash only escapes itself and the quote.
-/

namespace ChunkBridge.Splitting

/-- What keeps an argument from being split. -/
inductive Fault where
  | openQuote
  | openEscape
  | unknownEscape (c : Char)
  | quotedEnd
  | expansion (text : List Char)
deriving Repr, DecidableEq

/-- The wording of the fault. -/
def Fault.message : Fault → String
  | .openQuote => "no terminating quote in -S string"
  | .openEscape => "invalid backslash at end of string in -S"
  | .unknownEscape c => s!"invalid sequence '\\{c}' in -S"
  | .quotedEnd => "'\\c' must not appear in double-quoted -S string"
  | .expansion text =>
    "only $\x7bVARNAME\x7d expansion is supported, error at: " ++ String.ofList text

inductive Quoting where
  | bare
  | single
  | double
deriving Repr, DecidableEq, Inhabited

/-- Arguments on the way; the last one may not have begun. -/
structure Fields where
  done : List String := []
  current : Option (List Char) := none

namespace Fields

/-- Begins an argument unless one has begun. -/
def opened (f : Fields) : Fields := { f with current := some (f.current.getD []) }

/-- Adds a character. -/
def add (f : Fields) (c : Char) : Fields := { f with current := some (f.current.getD [] ++ [c]) }

/-- Ends the last argument. -/
def close (f : Fields) : Fields :=
  match f.current with
  | some cs => ⟨f.done ++ [String.ofList cs], none⟩
  | none => f

end Fields

/-- The character parts arguments. -/
def isBlank (c : Char) : Bool := c ∈ [' ', '\t', '\n', '\x0b', '\x0c', '\r']

/-- The character that stands for a character behind a backslash. -/
def escaped? (quoting : Quoting) : Char → Option Char
  | 'f' => some '\x0c'
  | 'n' => some '\n'
  | 'r' => some '\r'
  | 't' => some '\t'
  | 'v' => some '\x0b'
  | '_' => if quoting == .double then some ' ' else none
  | c => if c ∈ ['"', '#', '$', '\'', '\\'] then some c else none

/-- Splits the rest of an argument. -/
def splitFrom (quoting : Quoting) (f : Fields) : List Char → Except Fault (List String)
  | [] => if quoting == .bare then .ok f.close.done else .error .openQuote
  | '\'' :: cs =>
    match quoting with
    | .bare => splitFrom .single f.opened cs
    | .single => splitFrom .bare f cs
    | .double => splitFrom .double (f.add '\'') cs
  | '"' :: cs =>
    match quoting with
    | .bare => splitFrom .double f.opened cs
    | .double => splitFrom .bare f cs
    | .single => splitFrom .single (f.add '"') cs
  | '\\' :: c :: cs =>
    if quoting == .single && c != '\\' && c != '\'' then
      splitFrom .single ((f.add '\\').add c) cs
    else if c == 'c' then
      if quoting == .double then .error .quotedEnd else .ok f.close.done
    else if c == '_' && quoting == .bare then splitFrom .bare f.close cs
    else
      match escaped? quoting c with
      | some c => splitFrom quoting (f.add c) cs
      | none => .error (.unknownEscape c)
  | ['\\'] => .error (if quoting == .single then .openQuote else .openEscape)
  | c :: cs =>
    if quoting == .bare && isBlank c then splitFrom .bare f.close cs
    else if c == '#' && quoting == .bare && f.current.isNone then .ok f.done
    else if c == '$' && quoting != .single then .error (.expansion (c :: cs))
    else splitFrom quoting (f.add c) cs

/-- The arguments in a text. -/
def split (text : String) : Except Fault (List String) := splitFrom .bare {} text.toList

end ChunkBridge.Splitting
