import ChunkBridge.Build.Session
import ChunkBridge.Chunk.Pass
import ChunkBridge.Compile.Setting

/-!
# Assembling an invocation

The flags of the user come first and always win; then come defaults, the externs of the user with
those of the chunk behind them, the script, and the place for the source map. Externs with the
same text are written once in a build.
-/

namespace ChunkBridge
open ChunkBridge.Text

/-- An invocation and the number of its source map. -/
structure Assembled where
  invocation : Invocation
  map : Nat
deriving Repr, DecidableEq, Inhabited

namespace Assembled

/-- Settings that hold unless the user says otherwise. -/
def defaults (format : OutputFormat) : List (String × FlagValue) :=
  [(Flags.languageOut, .text Flags.noTranspile),
    ("assume_function_wrapper", .bool format.isEsm),
    (Flags.warningLevel, .text "QUIET"),
    ("module_resolution", .text "NODE")]

/-- The flags of the user with the defaults behind them. -/
def withDefaults (flags : Flags) (format : OutputFormat) : Invocation :=
  (defaults format).foldl (fun t (key, value) => t.setDefault key (.plain value))
    (flags.map Setting.plain)

/-- The key of the file with an externs text. -/
def externsKey (text : String) : String :=
  "externs:" ++ String.ofList (hexDigits 16 (fingerprint text).toNat)

/-- The file with an externs text. -/
def externsFile (text : String) (session : Session) : ScratchFile × Session :=
  match session.store.get? ScratchFile (externsKey text) with
  | some file => (file, session)
  | none =>
    let (file, session) := session.writeFile text
    (file, { session with store := session.store.set (externsKey text) file .chunk })

/-- The file with the externs of a chunk, if there are any. -/
def generatedExterns (passes : List ChunkPass) (session : Session) :
    List FileName × Session :=
  let text := ChunkPass.externsText passes
  if text.isEmpty then ([], session)
  else
    let (file, session) := externsFile text session
    ([.scratch file], session)

/-- Names the files with externs, if there are any. -/
def setExterns (files : List FileName) (invocation : Invocation) : Invocation :=
  if files.isEmpty then invocation else invocation.set Flags.externsFlag (.files files)

end Assembled

namespace Session

/-- Assembles the invocation of the compiler for a prepared chunk. -/
def assemble (session : Session) (format : OutputFormat) (passes : List ChunkPass)
    (code : String) : Except Flags.Conflict Assembled × Session :=
  match Flags.conflict? session.flags with
  | some conflict => (.error conflict, session)
  | none =>
    let invocation := Assembled.withDefaults session.flags format
    let (generated, session) := Assembled.generatedExterns passes session
    let files := (Flags.externs session.flags).map FileName.named ++ generated
    let (script, session) := session.writeFile code
    let map := session.scratchFiles
    let invocation := Assembled.setExterns files invocation
      |>.set Invocation.script (.script script)
      |>.set Invocation.createSourceMap (.mapFile map)
    (.ok ⟨invocation, map⟩, { session with scratchFiles := map + 1 })

end Session
end ChunkBridge
