import ChunkBridge.Process.Shell.Run
import ChunkBridge.Process.Splitting

/-!
# Running programs

A small machine with the programs that may stand in for a compiler. Every other path names no
file.
-/

namespace ChunkBridge.Machine
open ChunkBridge.Text

/-- A process that has come to its end. -/
structure Finished where
  ending : Ending
  out : List UInt8 := []
  err : List UInt8 := []
  files : Files

/-- A process that ends by itself. -/
def exited (files : Files) (status : Nat) : Finished := { ending := .exited status, files }

/-- A process that ends with an error. -/
def complained (files : Files) (status : Nat) (message : String) : Finished :=
  { ending := .exited status, err := Utf8.encode (message ++ "\n"), files }

/-- The process of a shell. -/
def ofShell (stop : Shell.Stop) : Finished where
  ending := stop.ending
  out := stop.state.written 1
  err := stop.state.written 2
  files := stop.state.files

/-- Runs a shell; `settings` are set from the start. -/
def shell (files : Files) (settings : Table String) (name : String) :
    List String → Finished
  | "-c" :: script :: arguments =>
    ofShell <| Shell.runScript script
      { files, settings, zero := arguments.headD name, arguments := arguments.tail }
  | "-c" :: [] => complained files 2 s!"{name}: 0: -c requires an argument"
  | script :: _ => complained files 2 s!"{name}: 0: cannot open {script}: No such file"
  | [] => exited files 0

/-- The name of a program that is told by a path or looked for. -/
def programName (path : String) : String :=
  match ["/bin/", "/usr/bin/"].find? fun directory => directory.toList.isPrefixOf path.toList with
  | some directory => String.ofList (path.toList.drop directory.length)
  | none => path

/-- Runs a program; none if there is no such program. -/
def program (files : Files) (settings : Table String) (path : String) (arguments : List String) :
    Option Finished :=
  match programName path with
  | "echo" => some { exited files 0 with out := Printing.programEcho arguments }
  | "printf" => some { exited files 0 with out := Printing.printf arguments }
  | "true" => some (exited files 0)
  | "false" => some (exited files 1)
  | "cat" =>
    let s := Shell.concatenate { files } arguments
    some (ofShell ⟨.exited s.status, s⟩)
  | "rm" =>
    let s := Shell.removeFiles { files } arguments
    some (ofShell ⟨.exited s.status, s⟩)
  | "sh" | "dash" => some (shell files settings path arguments)
  | _ => none

/-- The option of `env` with a text that is split. -/
def splitOption : String := "--split-string="

/-- Runs `env` with the arguments that its option was split into. -/
def environment (files : Files) (path : String) : List String → Table String → Finished
  | [], _ => exited files 0
  | word :: rest, settings =>
    match word.splitOn "=" with
    | name :: value :: more =>
      environment files path rest (settings.set name ("=".intercalate (value :: more)))
    | _ =>
      match program files settings word rest with
      | some finished => finished
      | none => complained files 127 s!"{path}: '{word}': No such file or directory"

/-- Runs `env`. -/
def env (files : Files) (path : String) (arguments : List String) : Finished :=
  match arguments with
  | [] => exited files 0
  | option :: rest =>
    let cs := option.toList
    if splitOption.toList.isPrefixOf cs then
      match Splitting.split (String.ofList (cs.drop splitOption.length)) with
      | .ok words => environment files path (words ++ rest) {}
      | .error fault => complained files 125 s!"{path}: {fault.message}"
    else
      complained files 125 <|
        s!"{path}: unrecognized option '{option}'\n" ++
          s!"Try '{path} --help' for more information."

/-- Runs a command; none if there is no such program. -/
def run (files : Files) (path : String) (arguments : List String) : Option Finished :=
  if programName path == "env" then some (env files path arguments)
  else program files {} path arguments

end ChunkBridge.Machine
