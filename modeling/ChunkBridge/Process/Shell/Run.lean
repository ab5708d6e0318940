import ChunkBridge.Process.Printing
import ChunkBridge.Process.Shell.Script
import ChunkBridge.Process.Shell.State
import ChunkBridge.Process.Signal

/-!
# Running shell scripts
-/

namespace ChunkBridge.Shell
open ChunkBridge.Text

/-- What becomes of a shell. -/
abbrev Running := Except Stop State

/-! ## Utilities -/

/-- Prints files, or the input if none is given. -/
def concatenate (s : State) (names : List String) : State :=
  if names.isEmpty then ({ s with input := [] }.write 1 s.input).finish 0
  else
    names.foldl (fun s name =>
      if name == "-" then { s with input := [] }.write 1 s.input
      else
        match s.files.get? name with
        | some bytes => s.write 1 bytes
        | none => s.complain 1 s!"cat: {name}: No such file or directory") (s.finish 0)

/-- Removes files. -/
def removeFiles (s : State) (arguments : List String) : State :=
  let isForced := arguments.contains "-f"
  (arguments.filter (· != "-f")).foldl (fun s name =>
    if s.files.contains name then { s with files := s.files.remove name }
    else if isForced then s
    else s.complain 1 s!"rm: cannot remove '{name}': No such file or directory") (s.finish 0)

/-- The number that a text starts with; other texts are zero. -/
def number (text : String) : Nat := text.toNat?.getD 0

/-- Sends a signal; only the shell itself can be hit. -/
def kill (s : State) (arguments : List String) : Running :=
  let (signal, targets) :=
    match arguments with
    | "-s" :: name :: rest => (Signal.ofName? name, rest)
    | option :: rest =>
      if option.toList.head? == some '-' then
        let name := String.ofList (option.toList.drop 1)
        ((name.toNat?).or (Signal.ofName? name), rest)
      else (some Signal.termination, option :: rest)
    | [] => (none, [])
  match signal with
  | none => .ok (s.finish 1)
  | some signal =>
    if targets.contains processNumber && Signal.ends signal then .error ⟨.killed signal, s⟩
    else .ok (s.finish 0)

/-- Compares two numbers. -/
def compares (a : String) (operator : String) (b : String) : Bool :=
  match operator with
  | "-eq" => number a == number b
  | "-ne" => number a != number b
  | "-gt" => number a > number b
  | "-ge" => number a ≥ number b
  | "-lt" => number a < number b
  | "-le" => number a ≤ number b
  | _ => false

/-- Whether a condition on texts, numbers and files holds. -/
def holds (s : State) : List String → Bool
  | "!" :: rest => !holds s rest
  | ["-n", text] => text != ""
  | ["-z", text] => text == ""
  | ["-e", path] | ["-f", path] => s.files.contains path
  | ["-s", path] => (s.files.get? path).any fun bytes => !bytes.isEmpty
  | [a, "=", b] => a == b
  | [a, "!=", b] => a != b
  | [a, operator, b] => compares a operator b
  | [text] => text != ""
  | _ => false

/-- Calls a command by its name. -/
def call (s : State) (name : String) (arguments : List String) : Running :=
  match name with
  | "echo" => .ok ((s.write 1 (Printing.shellEcho arguments)).finish 0)
  | "/bin/echo" | "/usr/bin/echo" => .ok ((s.write 1 (Printing.programEcho arguments)).finish 0)
  | "printf" | "/usr/bin/printf" => .ok ((s.write 1 (Printing.printf arguments)).finish 0)
  | "cat" | "/bin/cat" => .ok (concatenate s arguments)
  | "rm" | "/bin/rm" => .ok (removeFiles s arguments)
  | "true" | ":" | "/bin/true" => .ok (s.finish 0)
  | "false" | "/bin/false" => .ok (s.finish 1)
  | "exit" => .error ⟨.exited (((arguments.head?).map number).getD s.status % 256), s⟩
  | "kill" => kill s arguments
  | "test" => .ok (s.finish (if holds s arguments then 0 else 1))
  | "[" => .ok (s.finish (if holds s arguments.dropLast then 0 else 1))
  | "shift" => .ok ({ s with arguments := s.arguments.drop 1 }.finish 0)
  | name => .ok (s.complain 127 s!"{s.zero}: 1: {name}: not found")

/-! ## Redirections -/

/-- Where an output goes. -/
inductive Target where
  | descriptor (n : Nat)
  | file (path : String)
deriving Repr, DecidableEq, Inhabited

/-- Where the outputs of a command go. -/
structure Targets where
  out : Target := .descriptor 1
  err : Target := .descriptor 2

/-- The target of an output. -/
def Targets.get (t : Targets) (descriptor : Nat) : Target :=
  if descriptor == 1 then t.out else if descriptor == 2 then t.err else .descriptor descriptor

/-- Gives an output another target. -/
def Targets.set (t : Targets) (descriptor : Nat) (target : Target) : Targets :=
  if descriptor == 1 then { t with out := target }
  else if descriptor == 2 then { t with err := target }
  else t

/-- Opens a redirection; none if a file cannot be opened. -/
def openTarget (s : State) (t : Targets) : Redirection → Option (State × Targets)
  | .toFile descriptor appends target =>
    let path := s.text target
    let held := if appends then (s.files.get? path).getD [] else []
    some ({ s with files := s.files.set path held }, t.set descriptor (.file path))
  | .copy descriptor source => some (s, t.set descriptor (t.get source))
  | .fromFile source =>
    let path := s.text source
    if path == "/dev/null" then some ({ s with input := [] }, t)
    else (s.files.get? path).map fun input => ({ s with input }, t)

/-- Sends what was written to where it goes. -/
def deliver (t : Targets) (s : State) (w : Write) : State :=
  match t.get w.descriptor with
  | .descriptor n => s.write n w.bytes
  | .file path =>
    if path == "/dev/null" then s
    else { s with files := s.files.set path ((s.files.get? path).getD [] ++ w.bytes) }

/-- Runs something with redirections. -/
def withTargets (s : State) (rs : List Redirection) (run : State → Running) : Running :=
  match rs.foldlM (fun (s, t) r => openTarget s t r) (s, ({} : Targets)) with
  | none => .ok (s.complain 2 s!"{s.zero}: 1: cannot open file")
  | some (opened, t) =>
    let close (after : State) : State :=
      after.writes.foldl (deliver t) { after with writes := s.writes, input := s.input }
    match run { opened with writes := [] } with
    | .ok after => .ok (close after)
    | .error stop => .error { stop with state := close stop.state }

/-! ## Commands -/

/-- Runs a command. -/
def Command.run : Command → State → Running
  | .skip, s => .ok s
  | .simple assignments words, s =>
    let s := assignments.foldl
      (fun s (name, w) => { s with settings := s.settings.set name (s.text w) }) s
    match words.flatMap s.fields with
    | [] => .ok (s.finish 0)
    | name :: arguments => call s name arguments
  | .sequence first second, s => do second.run (← first.run s)
  | .both first second, s => do
    let s ← first.run s
    if s.status == 0 then second.run s else .ok s
  | .either first second, s => do
    let s ← first.run s
    if s.status == 0 then .ok s else second.run s
  | .negation c, s => do
    let s ← c.run s
    .ok (s.finish (if s.status == 0 then 1 else 0))
  | .loop name words body, s =>
    let values := (words.map fun ws => ws.flatMap s.fields).getD s.arguments
    values.foldlM (fun s v => body.run { s with settings := s.settings.set name v }) (s.finish 0)
  | .choice subject patterns body rest, s =>
    if patterns.any fun p => fits (s.pattern p) (s.text subject).toList then body.run s
    else rest.run s
  | .conditional condition yes no, s => do
    let s ← condition.run s
    if s.status == 0 then yes.run s else no.run (s.finish 0)
  | .redirected c rs, s => withTargets s rs c.run

/-- Runs a script to its end. -/
def runScript (script : String) (s : State) : Stop :=
  match Command.ofScript script with
  | none => ⟨.exited 2, s.complain 2 s!"{s.zero}: 1: Syntax error"⟩
  | some c =>
    match c.run s with
    | .ok s => ⟨.exited s.status, s⟩
    | .error stop => stop

end ChunkBridge.Shell
