import ChunkBridge.Compile.Compiler
import ChunkBridge.Process.Machine

/-!
# Compilers that are programs

A compiler that is called with its flags on the command line, prints the compiled script, and
fails by its exit status. If the user asks for all warnings, a warning is a failure as well.
-/

namespace ChunkBridge
open ChunkBridge.Text

/-- The program that a compiler is. -/
inductive Program where
  | native (bin : String)
  | jar (java archive : String)
deriving Repr, DecidableEq, Inhabited

namespace Program

/-- The program of a compiler that nobody told the path of. -/
def defaultBin : String := "google-closure-compiler"

/-- The program that the user's surroundings tell: an archive goes before a program of its own. -/
def ofSurroundings (jar bin : Option String) : Program :=
  match jar with
  | some archive => .jar "java" archive
  | none => .native (bin.getD defaultBin)

/-- The program for people to read. -/
def display : Program → String
  | .native bin => bin
  | .jar java archive => s!"{java} -jar {archive}"

/-- The path of the program and its first arguments. -/
def command : Program → String × List String
  | .native bin => (bin, [])
  | .jar java archive => (java, ["-jar", archive])

/-- Why a program did not compile anything. -/
inductive Fault where
  /-- There is no such program. -/
  | missing
  /-- A command cannot hold a NUL. -/
  | nul
  | failed (ending : Ending) (errors : String)
  | warned (warnings : String)
  /-- What the program printed is no text. -/
  | noText (fault : Utf8.Fault)
deriving Repr, DecidableEq

/-- How a process ended, for people to read. -/
def endingText : Ending → String
  | .exited status => s!"exit status: {status}"
  | .killed signal => s!"signal: {Signal.display signal}"

/-- Why a program did not compile anything, as a trace. -/
def Fault.trace (program : Program) : Fault → Trace
  | .missing =>
    ⟨s!"Failed to run \x60{program.display}\x60", ["No such file or directory (os error 2)"]⟩
  | .nul => ⟨s!"Failed to run \x60{program.display}\x60", ["nul byte found in provided data"]⟩
  | .failed ending errors =>
    ⟨s!"\x60{program.display}\x60 exited with {endingText ending}:\n{errors}", []⟩
  | .warned warnings => ⟨s!"\x60{program.display}\x60 reported warnings:\n{warnings}", []⟩
  | .noText fault => ⟨"Closure Compiler output is not valid UTF-8", [fault.message]⟩

/-- The code points that are blank. -/
def isBlank (c : Char) : Bool :=
  (9 ≤ c.toNat && c.toNat ≤ 13) || c.toNat ∈ [0x20, 0x85, 0xA0, 0x1680, 0x2028, 0x2029, 0x202F,
    0x205F, 0x3000] || (0x2000 ≤ c.toNat && c.toNat ≤ 0x200A)

/-- The text without blanks at its ends. -/
def trimmed (text : String) : String :=
  String.ofList (((text.toList.dropWhile isBlank).reverse.dropWhile isBlank).reverse)

/-- What a process that has ended means for the compilation. -/
def outcome (isVerbose : Bool) (p : Machine.Finished) : Except Fault String :=
  let errors := trimmed (Utf8.decodeLossy p.err)
  if p.ending != .exited 0 then .error (.failed p.ending errors)
  else if isVerbose && !errors.isEmpty then .error (.warned errors)
  else (Utf8.decode p.out).mapError .noText

/-- Calls the program with flags: what it prints, and the files behind it. -/
def run (program : Program) (flags : Flags) (files : Files) : Except Fault String × Files :=
  let (path, first) := program.command
  let arguments := first ++ Flags.arguments flags
  if (path :: arguments).any fun text => text.toList.contains '\x00' then (.error .nul, files)
  else
    match Machine.run files path arguments with
    | none => (.error .missing, files)
    | some p => (outcome (Flags.isVerbose flags) p, p.files)

/-- The program as a compiler: it finds the scratch files where the flags say. -/
def compiler (program : Program) : Compiler := fun invocation =>
  let mapPath := (invocation.flags.text? Invocation.createSourceMap).getD ""
  let scratch := invocation.scratchFiles.map fun file => (file.path, Utf8.encode file.contents)
  let (result, files) := program.run invocation.flags (.ofList ((mapPath, []) :: scratch))
  { code := result.mapError (Fault.trace program)
    map := ((files.get? mapPath).map MapFile.ofBytes).getD .absent }

end Program
end ChunkBridge
