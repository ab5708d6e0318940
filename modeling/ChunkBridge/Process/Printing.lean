import ChunkBridge.Process.Escape

/-!
# Printing

What `echo` and `printf` print.
-/

namespace ChunkBridge.Printing
open ChunkBridge.Text

/-- What the `echo` of a shell prints: its arguments with escapes, and a line break unless it is
told to leave that out. -/
def shellEcho (arguments : List String) : List UInt8 :=
  let (bare, arguments) :=
    match arguments with
    | "-n" :: rest => (true, rest)
    | arguments => (false, arguments)
  let printed := Escape.decode (" ".intercalate arguments)
  printed.bytes ++ if bare || printed.stopped then [] else [10]

/-- What the program `echo` prints: its arguments as they are, and a line break. -/
def programEcho (arguments : List String) : List UInt8 :=
  Utf8.encode (" ".intercalate arguments ++ "\n")

/-- What a directive of a format prints for an argument. -/
def directive (kind : Char) (argument : String) : Escape.Bytes :=
  match kind with
  | 'b' => Escape.decode argument
  | 'd' | 'i' | 'u' => ⟨Utf8.encode (toString ((argument.toInt?).getD 0)), false⟩
  | 'c' => ⟨(Utf8.encode argument).take 1, false⟩
  | _ => ⟨Utf8.encode argument, false⟩

/-- One pass over a format. -/
structure Pass where
  bytes : List UInt8
  /-- The arguments that are left. -/
  rest : List String
  stopped : Bool := false

/-- Puts bytes in front. -/
def Pass.after (front : List UInt8) (p : Pass) : Pass := { p with bytes := front ++ p.bytes }

/-- Prints a format once; `skip` characters belong to an escape before. -/
def formatOnce : Nat → List Char → List String → Pass
  | _, [], arguments => ⟨[], arguments, false⟩
  | skip + 1, _ :: cs, arguments => formatOnce skip cs arguments
  | 0, '%' :: '%' :: cs, arguments => (formatOnce 0 cs arguments).after [37]
  | 0, '%' :: kind :: cs, arguments =>
    let printed := directive kind (arguments.headD "")
    if printed.stopped then ⟨printed.bytes, [], true⟩
    else (formatOnce 0 cs arguments.tail).after printed.bytes
  | 0, '\\' :: cs, arguments =>
    match Escape.read cs with
    | .stop => ⟨[], [], true⟩
    | .byte value length => (formatOnce length cs arguments).after [value]
    | .none => (formatOnce 0 cs arguments).after [92]
  | 0, c :: cs, arguments => (formatOnce 0 cs arguments).after (Utf8.encode c.toString)

/-- Prints a format again and again while it takes up arguments; each time takes at least one, so
`fuel` is their number. -/
def format (text : List Char) : Nat → List String → List UInt8
  | 0, _ => []
  | fuel + 1, arguments =>
    let pass := formatOnce 0 text arguments
    if pass.stopped || pass.rest.isEmpty || pass.rest.length == arguments.length then pass.bytes
    else pass.bytes ++ format text fuel pass.rest

/-- What `printf` prints. -/
def printf : List String → List UInt8
  | [] => []
  | text :: arguments => format text.toList (arguments.length + 1) arguments

end ChunkBridge.Printing
