import ChunkBridge.Process.Shell.Lexeme

/-!
# Reading shell scripts
-/

namespace ChunkBridge.Shell

/-- A command at the start of some lexemes, and the lexemes behind it. -/
abbrev Reading := Option (Command × List Lexeme)

/-- The bare word at the start of some lexemes. -/
def keyword? : List Lexeme → Option String
  | .word w :: _ => Word.bare? w
  | _ => none

/-- Takes a bare word. -/
def expect (text : String) (ls : List Lexeme) : Option (List Lexeme) :=
  if keyword? ls == some text then some (ls.drop 1) else none

/-- Words that end a list of commands. -/
def closers : List String := ["do", "done", "then", "else", "elif", "fi", "esac", "\x7d"]

/-- The list of commands ends here. -/
def atEnd (ls : List Lexeme) : Bool :=
  match ls with
  | [] | .mark ")" :: _ | .mark ";;" :: _ => true
  | ls => (keyword? ls).any closers.contains

/-- Drops line breaks and semicolons. -/
def skipBreaks : List Lexeme → List Lexeme
  | .mark ";" :: ls | .mark "\n" :: ls => skipBreaks ls
  | ls => ls

/-- A redirection. -/
def redirection? (descriptor : Option Nat) (mark : String) (target : Word) :
    Option Redirection :=
  match mark with
  | ">" => some (.toFile (descriptor.getD 1) false target)
  | ">>" => some (.toFile (descriptor.getD 1) true target)
  | ">&" => do
    let source ← (← Word.bare? target).toNat?
    return .copy (descriptor.getD 1) source
  | "<" => some (.fromFile target)
  | _ => none

/-- Redirections at the start of some lexemes. -/
def redirections : List Lexeme → List Redirection × List Lexeme
  | .redirect d mark :: .word target :: ls =>
    match redirection? d mark target with
    | some r =>
      let (rs, rest) := redirections ls
      (r :: rs, rest)
    | none => ([], .redirect d mark :: .word target :: ls)
  | ls => ([], ls)

/-- A command with its redirections. -/
def withRedirections (c : Command) (rs : List Redirection) : Command :=
  if rs.isEmpty then c else .redirected c rs

/-- The variable and value of a word that sets one. -/
def assignment? (w : Word) : Option (String × Word) :=
  let isName : Part → Bool
    | .char c false => isNameChar c
    | _ => false
  match w.span isName with
  | (name, .char '=' false :: value) => do
    let text ← Word.bare? name
    if (text.toList.head?).any isNameStart then some (text, value) else none
  | _ => none

/-- The words and redirections of a simple command. -/
def simpleParts : List Lexeme → List Word × List Redirection × List Lexeme
  | .word w :: ls =>
    let (ws, rs, rest) := simpleParts ls
    (w :: ws, rs, rest)
  | .redirect d mark :: .word target :: ls =>
    match redirection? d mark target with
    | some r =>
      let (ws, rs, rest) := simpleParts ls
      (ws, r :: rs, rest)
    | none => ([], [], .redirect d mark :: .word target :: ls)
  | ls => ([], [], ls)

/-- A simple command. -/
def simpleCommand (ls : List Lexeme) : Reading :=
  let (words, rs, rest) := simpleParts ls
  let settings := (words.takeWhile fun w => (assignment? w).isSome).filterMap assignment?
  let call := words.drop settings.length
  if words.isEmpty && rs.isEmpty then none
  else some (withRedirections (.simple settings call) rs, rest)

/-- The patterns of a branch, up to their closing mark. -/
def branchPatterns : List Lexeme → Option (List Word × List Lexeme)
  | .mark "(" :: .word w :: .mark ")" :: ls | .word w :: .mark ")" :: ls => some ([w], ls)
  | .word w :: .mark "|" :: ls => (branchPatterns ls).map fun (ws, rest) => (w :: ws, rest)
  | _ => none

/-- The words of a loop, up to the end of their line. -/
def loopWords : List Lexeme → List Word × List Lexeme
  | .word w :: ls =>
    let (ws, rest) := loopWords ls
    (w :: ws, rest)
  | ls => ([], ls)

mutual

/-- A list of commands, up to what ends it. Each reader calls the next one on fewer lexemes or
with less `fuel`. -/
def readList : Nat → List Lexeme → Reading
  | 0, _ => none
  | fuel + 1, ls => do
    let ls := skipBreaks ls
    if atEnd ls then return (.skip, ls)
    let (first, ls) ← readChain fuel ls
    match ls with
    | .mark ";" :: rest | .mark "\n" :: rest =>
      let (more, rest) ← readList fuel rest
      return (.sequence first more, rest)
    | ls => if atEnd ls then return (first, ls) else none

/-- Commands that hang on the success or failure of each other. -/
def readChain : Nat → List Lexeme → Reading
  | 0, _ => none
  | fuel + 1, ls => do
    let (first, ls) ← readCommand fuel ls
    readLinks fuel first ls

/-- The further links of a chain. -/
def readLinks : Nat → Command → List Lexeme → Reading
  | 0, _, _ => none
  | fuel + 1, first, ls =>
    match ls with
    | .mark "&&" :: rest => do
      let (second, rest) ← readCommand fuel rest
      readLinks fuel (.both first second) rest
    | .mark "||" :: rest => do
      let (second, rest) ← readCommand fuel rest
      readLinks fuel (.either first second) rest
    | ls => some (first, ls)

/-- One command. -/
def readCommand : Nat → List Lexeme → Reading
  | 0, _ => none
  | fuel + 1, ls => do
    match ls, keyword? ls with
    | .mark "(" :: rest, _ =>
      let (body, rest) ← readList fuel rest
      match rest with
      | .mark ")" :: rest =>
        let (rs, rest) := redirections rest
        return (withRedirections body rs, rest)
      | _ => none
    | _, some "!" =>
      let (c, rest) ← readCommand fuel (ls.drop 1)
      return (.negation c, rest)
    | _, some "\x7b" =>
      let (body, rest) ← readList fuel (ls.drop 1)
      let (rs, rest) := redirections (← expect "\x7d" rest)
      return (withRedirections body rs, rest)
    | _, some "for" =>
      let name ← keyword? (ls.drop 1)
      let ls := ls.drop 2
      let (words, ls) :=
        if keyword? ls == some "in" then
          let (ws, rest) := loopWords (ls.drop 1)
          (some ws, rest)
        else (none, ls)
      let (body, rest) ← readList fuel (← expect "do" (skipBreaks ls))
      let (rs, rest) := redirections (← expect "done" rest)
      return (withRedirections (.loop name words body) rs, rest)
    | _, some "case" =>
      match ls.drop 1 with
      | .word subject :: rest =>
        let (branches, rest) ← readBranches fuel subject (skipBreaks (← expect "in" (skipBreaks rest)))
        let (rs, rest) := redirections rest
        return (withRedirections branches rs, rest)
      | _ => none
    | _, some "if" =>
      let (c, rest) ← readConditional fuel (ls.drop 1)
      let (rs, rest) := redirections rest
      return (withRedirections c rs, rest)
    | _, _ => if atEnd ls then none else simpleCommand ls

/-- The branches of a choice. -/
def readBranches : Nat → Word → List Lexeme → Reading
  | 0, _, _ => none
  | fuel + 1, subject, ls => do
    if keyword? ls == some "esac" then return (.skip, ls.drop 1)
    let (patterns, rest) ← branchPatterns ls
    let (body, rest) ← readList fuel rest
    let rest :=
      match rest with
      | .mark ";;" :: rest => skipBreaks rest
      | rest => rest
    let (others, rest) ← readBranches fuel subject rest
    return (.choice subject patterns body others, rest)

/-- A condition and what hangs on it. -/
def readConditional : Nat → List Lexeme → Reading
  | 0, _ => none
  | fuel + 1, ls => do
    let (condition, rest) ← readList fuel ls
    let (yes, rest) ← readList fuel (← expect "then" rest)
    match keyword? rest with
    | some "elif" =>
      let (no, rest) ← readConditional fuel (rest.drop 1)
      return (.conditional condition yes no, rest)
    | some "else" =>
      let (no, rest) ← readList fuel (rest.drop 1)
      return (.conditional condition yes no, ← expect "fi" rest)
    | _ => return (.conditional condition yes .skip, ← expect "fi" rest)

end

/-- The command that a script is. -/
def Command.ofScript (text : String) : Option Command := do
  let cs := text.toList
  let ls ← lexemes (cs.length + 2) cs
  let (c, rest) ← readList (8 * ls.length + 8) ls
  if rest.isEmpty then some c else none

end ChunkBridge.Shell
