import ChunkBridge.Compile.ScratchFile
import ChunkBridge.Config.Flags

/-!
# Settings of a compiler run

Flags with the files that the build made for them. A setting knows its files and not only their
paths; `value` forgets the files.
-/

namespace ChunkBridge

/-- A file that is named in a flag. -/
inductive FileName where
  /-- A file of the user. -/
  | named (path : String)
  | scratch (file : ScratchFile)
deriving Repr, DecidableEq, Inhabited

/-- Where the file is. -/
def FileName.path : FileName → String
  | .named path => path
  | .scratch file => file.path

/-- The value of a flag in a compiler run. -/
inductive Setting where
  /-- A value that the user gave or that holds by default. -/
  | plain (value : FlagValue)
  /-- Files with externs. -/
  | files (names : List FileName)
  /-- The script to be compiled. -/
  | script (file : ScratchFile)
  /-- The place for the source map, which is told by its number. -/
  | mapFile (number : Nat)
deriving Repr, DecidableEq, Inhabited

namespace Setting

/-- The setting as the value of a flag. -/
def value : Setting → FlagValue
  | .plain value => value
  | .files names => .list (names.map FileName.path)
  | .script file => .text file.path
  | .mapFile number => .text (ScratchFile.mapPath number)

/-- The scratch files that the setting names. -/
def scratchFiles : Setting → List ScratchFile
  | .plain _ | .mapFile _ => []
  | .script file => [file]
  | .files names => names.filterMap fun
    | .scratch file => some file
    | .named _ => none

end Setting

/-- Everything that a compiler is called with, in the order of the command line. -/
abbrev Invocation := Table Setting

namespace Invocation

/-- The flag for the script. -/
def script : String := "js"

/-- The flag for the place of the source map. -/
def createSourceMap : String := "create_source_map"

/-- The flags as they are given on the command line. -/
def flags (invocation : Invocation) : Flags := invocation.map Setting.value

/-- The scratch files that are named. -/
def scratchFiles (invocation : Invocation) : List ScratchFile :=
  invocation.entries.flatMap fun entry => entry.2.scratchFiles

/-- The text to be compiled. -/
def code (invocation : Invocation) : String :=
  match invocation.get? script with
  | some (.script file) => file.contents
  | _ => ""

end Invocation
end ChunkBridge
